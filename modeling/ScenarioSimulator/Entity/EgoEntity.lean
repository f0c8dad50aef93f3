/-
EgoEntity (traffic_simulator/entity/ego_entity.cpp), the vehicle Autoware drives. Each onUpdate at a time ≥ 0 steps
the vehicle model, builds the entity status from it in the frame of the first pose the entity was given, sets that
status, and keeps linear_jerk_ and the previous velocities for the next step.

- `VehicleModelState`: what vehicle_model_ptr_ reports after update (getX, getY, getYaw, getVx, getWz); the vehicle
  model and Autoware's vehicle command (awapi_accessor) are parameters.
- `EgoContext`: the quaternion_operation, hdmap_utils and base-entity (VehicleEntity) calls.
- `EgoEntityState`: the base entity's status and the members onUpdate keeps.
- `getEntityStatus`, `setStatus`, `onUpdate`, `requestAssignRoute`; `run`, the calls in order. Dereferencing the empty
  initial_pose_ is `Error.outOfRange`, like a read past a vector.

Results:
- `run_velocitiesPaired`: in every reachable state the two previous velocities are both set or both unset.
- `linearJerk_is_accel`: from every reachable state, an onUpdate at a time ≥ 0 leaves in linear_jerk_ the accel.linear.x
  of the status it sets, (v - v_prev) / step_time, or 0 on the first update: an acceleration, not a jerk.
- `run_initialPose`: the first setStatus latches initial_pose_ to the pose the base entity stored, and no later call
  of the run moves it.
-/
import ScenarioSimulator.Behavior.LaneletFrame

namespace ScenarioSimulator.TrafficSimulator

open ScenarioSimulator.Geometry ScenarioSimulator.EntityBehavior

variable {R Q : Type} [LinearOrderedField R]

/-- the vehicle model's state after update: getX, getY, getYaw, getVx, getWz -/
structure VehicleModelState (R : Type) where
  x : R
  y : R
  yaw : R
  vx : R
  wz : R

/-- the quaternion_operation, hdmap_utils and base-entity calls of EgoEntity -/
structure EgoContext (R Q : Type) where
  quaternion : QuaternionOps R Q
  /-- quaternion_operation's operator* -/
  multiply : Q → Q → Q
  /-- the orientation of a default-constructed geometry_msgs Pose -/
  identity : Q
  /-- hdmap_utils getClosetLanletId(pose) -/
  getClosetLanletId : Pose R Q → Option ℤ
  /-- the height of a lanelet's centre line under a position: CatmullRomSpline(getCenterPoints(lanelet_id)), then
  getPoint(s).z at s = getSValue(position) when there is one, on traffic_simulator::math::CatmullRomSpline -/
  centerLineZ : ℤ → Point R → Except Error (Option R)
  /-- hdmap_utils toLaneletPose(pose) -/
  toLaneletPose : Pose R Q → Option (LaneletPose R)
  /-- hdmap_utils toMapPose(lanelet_pose).pose -/
  toMapPose : LaneletPose R → Pose R Q
  /-- VehicleEntity::setStatus(status) and then getStatus(): the status the base entity holds afterwards -/
  storeStatus : LaneletEntityStatus R Q → LaneletEntityStatus R Q → LaneletEntityStatus R Q
  /-- updateEntityStatusTimestamp(current_time) of the base entity -/
  updateEntityStatusTimestamp : LaneletEntityStatus R Q → R → LaneletEntityStatus R Q

/-- the base entity's status and the members of EgoEntity that onUpdate and setStatus keep -/
structure EgoEntityState (R Q : Type) where
  status : LaneletEntityStatus R Q
  initialPose : Option (Pose R Q)
  previousLinearVelocity : Option R
  previousAngularVelocity : Option R
  linearJerk : R

namespace EgoEntity

variable (ctx : EgoContext R Q)

/-- a new EgoEntity around the base entity's first status: initial_pose_ and the previous velocities are boost::none -/
def init (status : LaneletEntityStatus R Q) (linear_jerk : R) : EgoEntityState R Q :=
  ⟨status, none, none, none, linear_jerk⟩

/-- the pose EgoEntity::getEntityStatus builds: the vehicle model's pose turned by initial_pose_'s orientation and
moved to its position, its height taken from the closest lanelet's centre line where the position projects onto it;
getClosetLanletId sees the pose before its orientation is set -/
def statusPose (model : VehicleModelState R) (s : EgoEntityState R Q) : Except Error (Pose R Q) := do
  let rpy : Point R := ⟨0, 0, model.yaw⟩
  let pose : Pose R Q := ⟨⟨model.x, model.y, 0⟩, ctx.quaternion.convertEulerAngleToQuaternion rpy⟩
  let initial_pose ← match s.initialPose with
    | some p => .ok p
    | none => .error .outOfRange
  let v := ctx.quaternion.getRotationMatrix initial_pose.orientation pose.position
  let position : Point R := ⟨v.x + initial_pose.position.x, v.y + initial_pose.position.y,
    v.z + initial_pose.position.z⟩
  let closest_lanelet_id ← match ctx.getClosetLanletId ⟨position, ctx.identity⟩ with
    | some id => .ok id
    | none => .error (.simulation "failed to closest lane.")
  let position ← do
    match ← ctx.centerLineZ closest_lanelet_id position with
    | some z => pure { position with z := z }
    | none => pure position
  pure ⟨position, ctx.multiply initial_pose.orientation pose.orientation⟩

/-- the acceleration of EgoEntity::getEntityStatus: the differences of the speeds from the previous ones over
step_time once both are known, zero before -/
def statusAccel (model : VehicleModelState R) (s : EgoEntityState R Q) (step_time : R) : Accel R :=
  match s.previousAngularVelocity, s.previousLinearVelocity with
  | some w, some v => ⟨⟨(model.vx - v) / step_time, 0, 0⟩, ⟨0, 0, (model.wz - w) / step_time⟩⟩
  | _, _ => ⟨0, 0⟩

/-- EgoEntity::getEntityStatus(time, step_time) -/
def getEntityStatus (model : VehicleModelState R) (s : EgoEntityState R Q) (time step_time : R) :
    Except Error (LaneletEntityStatus R Q) := do
  let twist : Twist R := ⟨⟨model.vx, 0, 0⟩, ⟨0, 0, model.wz⟩⟩
  let accel := statusAccel model s step_time
  let status_pose ← statusPose ctx model s
  let lanelet_pose := ctx.toLaneletPose status_pose
  pure ⟨time, status_pose, twist, accel, 0, lanelet_pose.getD ⟨0, 0, 0, ⟨0, 0, 0⟩⟩, lanelet_pose.isSome⟩

/-- EgoEntity::setStatus(status): the base entity stores the status, and initial_pose_ is latched to the stored pose
the first time (updateAutoware, which sends the pose to Autoware, changes nothing here) -/
def setStatus (s : EgoEntityState R Q) (status : LaneletEntityStatus R Q) : EgoEntityState R Q :=
  let current := ctx.storeStatus s.status status
  { s with
    status := current
    initialPose := match s.initialPose with
      | some p => some p
      | none => some current.pose }

/-- EgoEntity::onUpdate(current_time, step_time), with `model` the vehicle model after setInput and update -/
def onUpdate (s : EgoEntityState R Q) (current_time step_time : R) (model : VehicleModelState R) :
    Except Error (EgoEntityState R Q) :=
  if current_time < 0 then .ok { s with status := ctx.updateEntityStatusTimestamp s.status current_time }
  else do
    let status ← getEntityStatus ctx model s (current_time + step_time) step_time
    let s := setStatus ctx s status
    let linear_jerk := match s.previousLinearVelocity with
      | some v => (model.vx - v) / step_time
      | none => 0
    pure { s with
      linearJerk := linear_jerk
      previousLinearVelocity := some model.vx
      previousAngularVelocity := some model.wz }

/-- EgoEntity::requestAssignRoute(waypoints): the map pose of the last waypoint as destination and those of the
others as constraints, passed on to requestAcquirePosition; none where assert(1 < waypoints.size()) fails -/
def requestAssignRoute (waypoints : List (LaneletPose R)) : Option (Pose R Q × List (Pose R Q)) :=
  if 1 < waypoints.length then
    waypoints.getLast?.map fun last => (ctx.toMapPose last, waypoints.dropLast.map ctx.toMapPose)
  else none

/-- the calls that change an EgoEntity -/
inductive Call (R Q : Type) where
  | setStatus (status : LaneletEntityStatus R Q)
  | onUpdate (current_time step_time : R) (model : VehicleModelState R)

/-- one call -/
def call (s : EgoEntityState R Q) : Call R Q → Except Error (EgoEntityState R Q)
  | .setStatus status => .ok (setStatus ctx s status)
  | .onUpdate current_time step_time model => onUpdate ctx s current_time step_time model

/-- the calls in order, stopping at the first throw -/
def run (calls : List (Call R Q)) (s : EgoEntityState R Q) : Except Error (EgoEntityState R Q) :=
  calls.foldlM (call ctx) s

omit [LinearOrderedField R] in
/-- every pair of waypoints or more is split into the constraints and the destination, in order -/
theorem requestAssignRoute_eq {waypoints : List (LaneletPose R)} {destination : Pose R Q}
    {constraints : List (Pose R Q)} (h : requestAssignRoute ctx waypoints = some (destination, constraints)) :
    constraints ++ [destination] = waypoints.map ctx.toMapPose := by
  unfold requestAssignRoute at h
  split_ifs at h
  obtain ⟨last, hlast, hpair⟩ := Option.map_eq_some'.1 h
  cases hpair
  rw [← List.map_singleton, ← List.map_append, List.dropLast_append_getLast? _ hlast]

end EgoEntity

/-! ## Invariants over runs -/

/-- previous_linear_velocity_ and previous_angular_velocity_ are set together -/
def EgoEntityState.VelocitiesPaired (s : EgoEntityState R Q) : Prop :=
  s.previousLinearVelocity.isSome = s.previousAngularVelocity.isSome

theorem bind_eq_ok {α β : Type} {x : Except Error α} {f : α → Except Error β} {b : β} :
    x >>= f = .ok b ↔ ∃ a, x = .ok a ∧ f a = .ok b := by
  cases x <;> simp [bind, Except.bind]

namespace EgoEntity

variable {ctx : EgoContext R Q}

omit [LinearOrderedField R] in
@[simp] theorem setStatus_previousLinearVelocity (s : EgoEntityState R Q) (status : LaneletEntityStatus R Q) :
    (setStatus ctx s status).previousLinearVelocity = s.previousLinearVelocity := rfl

omit [LinearOrderedField R] in
@[simp] theorem setStatus_previousAngularVelocity (s : EgoEntityState R Q) (status : LaneletEntityStatus R Q) :
    (setStatus ctx s status).previousAngularVelocity = s.previousAngularVelocity := rfl

/-- the status getEntityStatus returns carries `statusAccel` -/
theorem getEntityStatus_accel {model : VehicleModelState R} {s : EgoEntityState R Q} {time step_time : R}
    {status : LaneletEntityStatus R Q} (h : getEntityStatus ctx model s time step_time = .ok status) :
    status.accel = statusAccel model s step_time := by
  obtain ⟨_, -, hpure⟩ := bind_eq_ok.1 h
  cases hpure
  rfl

/-- what onUpdate does at a time ≥ 0: the status it builds is set, then linear_jerk_ and the previous velocities are
updated -/
theorem onUpdate_eq_ok {s s' : EgoEntityState R Q} {current_time step_time : R} {model : VehicleModelState R}
    (ht : 0 ≤ current_time) (h : onUpdate ctx s current_time step_time model = .ok s') :
    ∃ status, getEntityStatus ctx model s (current_time + step_time) step_time = .ok status ∧
      s' = { setStatus ctx s status with
        linearJerk := match s.previousLinearVelocity with
          | some v => (model.vx - v) / step_time
          | none => 0
        previousLinearVelocity := some model.vx
        previousAngularVelocity := some model.wz } := by
  rw [onUpdate, if_neg (not_lt.2 ht)] at h
  obtain ⟨status, hs, hpure⟩ := bind_eq_ok.1 h
  cases hpure
  exact ⟨status, hs, rfl⟩

/-- an invariant every call keeps holds after every run -/
theorem run_invariant (P : EgoEntityState R Q → Prop) (hcall : ∀ s c s', P s → call ctx s c = .ok s' → P s') :
    ∀ {calls : List (Call R Q)} {s s' : EgoEntityState R Q}, run ctx calls s = .ok s' → P s → P s'
  | [], _, _, h, hs => by
    cases h
    exact hs
  | c :: calls, s, _, h, hs => by
    obtain ⟨s₁, h₁, h₂⟩ := bind_eq_ok.1 h
    exact run_invariant P hcall h₂ (hcall s c s₁ hs h₁)

/-- every call keeps the previous velocities paired -/
theorem call_velocitiesPaired {s s' : EgoEntityState R Q} {c : Call R Q} (hs : s.VelocitiesPaired)
    (h : call ctx s c = .ok s') : s'.VelocitiesPaired := by
  cases c with
  | setStatus status =>
    cases h
    exact hs
  | onUpdate current_time step_time model =>
    by_cases ht : current_time < 0
    case pos =>
      rw [call, onUpdate, if_pos ht] at h
      cases h
      exact hs
    case neg =>
      obtain ⟨_, -, rfl⟩ := onUpdate_eq_ok (not_lt.1 ht) h
      rfl

/-- in every state a run reaches from a new EgoEntity, the previous velocities are both set or both unset -/
theorem run_velocitiesPaired {status : LaneletEntityStatus R Q} {linear_jerk : R} {calls : List (Call R Q)}
    {s : EgoEntityState R Q} (h : run ctx calls (init status linear_jerk) = .ok s) : s.VelocitiesPaired :=
  run_invariant _ (fun _ _ _ => call_velocitiesPaired) h rfl

/-- from every state a run reaches from a new EgoEntity, an onUpdate at a time ≥ 0 sets the status it builds and
leaves in linear_jerk_ that status's accel.linear.x, (v - v_prev) / step_time or 0 on the first update: the member
named for the jerk holds the longitudinal acceleration -/
theorem linearJerk_is_accel {status₀ : LaneletEntityStatus R Q} {linear_jerk : R} {calls : List (Call R Q)}
    {s s' : EgoEntityState R Q} {current_time step_time : R} {model : VehicleModelState R}
    (hrun : run ctx calls (init status₀ linear_jerk) = .ok s) (ht : 0 ≤ current_time)
    (h : onUpdate ctx s current_time step_time model = .ok s') :
    ∃ status, getEntityStatus ctx model s (current_time + step_time) step_time = .ok status ∧
      s'.status = ctx.storeStatus s.status status ∧ s'.linearJerk = status.accel.linear.x := by
  obtain ⟨status, hs, rfl⟩ := onUpdate_eq_ok ht h
  refine ⟨status, hs, rfl, ?_⟩
  have hpaired := run_velocitiesPaired hrun
  rw [getEntityStatus_accel hs, statusAccel]
  unfold EgoEntityState.VelocitiesPaired at hpaired
  cases hv : s.previousLinearVelocity <;> cases hw : s.previousAngularVelocity <;> simp_all

/-- an EgoContext with a trivial quaternion library, lanelet 1 closest everywhere with no centre-line height, no
lanelet pose, and a base entity that stores the status it is given -/
def unitEgo : EgoContext ℚ Unit where
  quaternion := QuaternionOps.trivial
  multiply _ _ := ()
  identity := ()
  getClosetLanletId _ := some 1
  centerLineZ _ _ := .ok none
  toLaneletPose _ := none
  toMapPose _ := ⟨0, ()⟩
  storeStatus _ status := status
  updateEntityStatusTimestamp status current_time := { status with time := current_time }

/-- the vehicle model at the origin, driving at 2 -/
def cruising : VehicleModelState ℚ := ⟨0, 0, 0, 2, 0⟩

theorem linearJerk_is_accel_cruising :
    ∃ s', onUpdate unitEgo (setStatus unitEgo (init (restingAt 1 0) 0) (restingAt 1 0)) 0 1 cruising = .ok s' ∧
      ∃ status, getEntityStatus unitEgo cruising (setStatus unitEgo (init (restingAt 1 0) 0) (restingAt 1 0)) (0 + 1) 1 =
          .ok status ∧
        s'.status = unitEgo.storeStatus (restingAt 1 0) status ∧ s'.linearJerk = status.accel.linear.x := by
  obtain ⟨s', hs'⟩ : ∃ s', onUpdate unitEgo (setStatus unitEgo (init (restingAt 1 0) 0) (restingAt 1 0)) 0 1 cruising =
      .ok s' := ⟨_, by rw [onUpdate, if_neg (lt_irrefl 0)]; rfl⟩
  exact ⟨s', hs', linearJerk_is_accel
    (show run unitEgo [.setStatus (restingAt 1 0)] (init (restingAt 1 0) 0) = .ok _ from rfl) le_rfl hs'⟩

/-- every call keeps a latched initial_pose_ -/
theorem call_initialPose {s s' : EgoEntityState R Q} {c : Call R Q} {p : Pose R Q} (hs : s.initialPose = some p)
    (h : call ctx s c = .ok s') : s'.initialPose = some p := by
  cases c with
  | setStatus status =>
    cases h
    simp [setStatus, hs]
  | onUpdate current_time step_time model =>
    by_cases ht : current_time < 0
    case pos =>
      rw [call, onUpdate, if_pos ht] at h
      cases h
      exact hs
    case neg =>
      obtain ⟨_, -, rfl⟩ := onUpdate_eq_ok (not_lt.1 ht) h
      simp [setStatus, hs]

/-- in every run that starts with setStatus(status) on an entity with no initial pose, initial_pose_ is the pose the
base entity stored for that status, whatever the later calls -/
theorem run_initialPose {status : LaneletEntityStatus R Q} {calls : List (Call R Q)} {s s' : EgoEntityState R Q}
    (hs : s.initialPose = none) (h : run ctx (.setStatus status :: calls) s = .ok s') :
    s'.initialPose = some (ctx.storeStatus s.status status).pose := by
  obtain ⟨s₁, h₁, h₂⟩ := bind_eq_ok.1 h
  cases h₁
  exact run_invariant (fun s => s.initialPose = some _) (fun _ _ _ => call_initialPose) h₂ (by simp [setStatus, hs])

theorem run_initialPose_cruising :
    ∃ s', run unitEgo [.setStatus (restingAt 1 0), .onUpdate 0 1 cruising] (init (restingAt 1 0) 0) = .ok s' ∧
      s'.initialPose = some (unitEgo.storeStatus (restingAt 1 0) (restingAt 1 0)).pose := by
  obtain ⟨s', hs'⟩ : ∃ s', run unitEgo [.setStatus (restingAt 1 0), .onUpdate 0 1 cruising] (init (restingAt 1 0) 0) =
      .ok s' := ⟨_, by simp only [run, List.foldlM_cons, call, onUpdate, if_neg (lt_irrefl (0 : ℚ))]; rfl⟩
  exact ⟨s', hs', run_initialPose rfl hs'⟩

end EgoEntity

end ScenarioSimulator.TrafficSimulator
