/-
The action node's queries about the other entities (action_node.cpp), whose answers FollowLaneAction::tick compares
with the stop distance: getOtherEntityStatus, getYieldStopDistance, both getRightOfWayEntities, getEntityStatus,
getDistanceToTargetEntityPolygon, getFrontEntityName, getDistanceToFrontEntity, getDistanceToTrafficLightStopLine,
getDistanceToTargetEntityOnCrosswalk, getConflictingEntityStatusOnCrossWalk / OnLane, getDistanceToConflictingEntity
and foundConflictingEntity.

- `EntityMap`: other_entity_status, an unordered_map, as its entries in iteration order; the names are distinct, a
  field of the structure.
- `QueryContext`: the hdmap_utils, traffic_light_manager, bounding-box and quaternion_operation calls, parameters of
  the model, and the spline the queries are given: spline.getCollisionPointIn2D(polygon, ...) is
  CatmullRomSpline::getCollisionPointIn2D(polygon, false) of `Spline.Collision`, on a spline for which it returns
  (`collision_ok`; every spline of three control points or more has this).
- `insertDistances`: the loops that insert the distances of the elements passing a test into a std::set<double>; the
  set is the list of what was inserted, and its begin() the list's minimum.

Results:
- `getYieldStopDistance_eq`: the set kept across following lanelets and the early return give the longitudinal
  distance to the first following lanelet with a right-of-way lanelet that another entity with a valid lanelet pose
  stands on (and with a distance at all).
- `getRightOfWayEntities_eq_nil_iff`: getRightOfWayEntities(following_lanelets) finds an entity exactly when some
  entity's lanelet_id is a right-of-way lanelet of a following lanelet; unlike getOtherEntityStatus it never reads
  lanelet_pose_valid.
- `getDistanceToFrontEntity_eq`: the front entity's name, looked up again, gives the least distance among the
  entities ahead (relative yaw within ±π/2, a valid lanelet pose, a polygon distance below 40); the query never throws
  and its size check never fires.
- `getDistanceToTrafficLightStopLine_eq_some_iff`, `getDistanceToConflictingEntity_eq_some_iff`: the nearest stop line
  of a red or yellow solid circle on the path, and the nearest conflicting entity (a pedestrian by its crosswalk's
  polygon, a vehicle by its box stretched 1 to the rear).
- `foundConflictingEntity_iff`: the early-exit check agrees with the two collecting queries.
-/
import ScenarioSimulator.Behavior.LaneletFrame
import ScenarioSimulator.Spline.Collision

namespace ScenarioSimulator.EntityBehavior

open ScenarioSimulator.Geometry

variable {R Q : Type} [LinearOrderedField R]

/-! ## The entity map and the libraries -/

/-- other_entity_status, the unordered_map from entity names to statuses: its entries in iteration order, the names
distinct -/
structure EntityMap (R Q : Type) where
  entries : List (String × LaneletEntityStatus R Q)
  nodup : (entries.map Prod.fst).Nodup

/-- the extensions of a bounding box to the right, left, front and rear -/
structure BoxExtension (R : Type) where
  right : R
  left : R
  front : R
  rear : R

/-- the hdmap_utils, traffic_light_manager, spline and geometry calls of the queries -/
structure QueryContext (R Q : Type) [LinearOrderedField R] where
  getRightOfWayLaneletIds : ℤ → List ℤ
  /-- getRightOfWayLaneletIds(lanelet_ids), an unordered_map from each lanelet to its right-of-way lanelets, read
  with at() -/
  getRightOfWayLaneletIdsMap : List ℤ → ℤ → Option (List ℤ)
  /-- getLongitudinalDistance(from_lanelet_id, from_s, to_lanelet_id, to_s) -/
  getLongitudinalDistance : ℤ → R → ℤ → R → Option R
  getConflictingCrosswalkIds : List ℤ → List ℤ
  getConflictingLaneIds : List ℤ → List ℤ
  getLaneletPolygon : ℤ → List (Point R)
  getTrafficLightIdsOnPath : List ℤ → List ℤ
  /-- getTrafficLight(id).contains(Color::red, Status::solid_on, Shape::circle) -/
  containsRedSolidOnCircle : ℤ → Bool
  /-- getTrafficLight(id).contains(Color::yellow, Status::solid_on, Shape::circle) -/
  containsYellowSolidOnCircle : ℤ → Bool
  /-- hdmap_utils getDistanceToTrafficLightStopLine(spline, id) -/
  getDistanceToTrafficLightStopLine : CatmullRomSpline R → ℤ → Option R
  /-- ActionNode::getDistanceToStopLine(route_lanelets), the overload FollowLaneAction::tick calls, declared in
  action_node.hpp; the overload of action_node.cpp hands the route and the waypoints to hdmap_utils -/
  getDistanceToStopLine : List ℤ → Option R
  /-- the spline the queries are given, a math::geometry::CatmullRomSpline (catmull_rom_spline.cpp) -/
  spline : CatmullRomSpline R
  /-- the curves' HermiteCurve::getCollisionPointIn2D(point0, point1, search_backward), hermite_curve.cpp -/
  search : HermiteCurve R → Point R → Point R → Bool → Option R
  /-- the spline's getCollisionPointIn2D(polygon, false) returns for every polygon: it throws only without a control
  point, or on two control points without their line segment (`getCollisionPointIn2DPolygon_ok`) -/
  collision_ok : ∀ polygon, ∃ s, spline.getCollisionPointIn2DPolygon search polygon false = .ok s
  /-- transformPoints(status.pose, getPointsFromBbox(status.bounding_box, extensions)) -/
  entityPolygon : LaneletEntityStatus R Q → BoxExtension R → List (Point R)
  /-- convertQuaternionToEulerAngle(getRotation(q0, q1)).z -/
  relativeYaw : Q → Q → R
  /-- boost::math::constants::half_pi -/
  halfPi : R
  /-- the default extensions of getDistanceToTargetEntityPolygon, declared in action_node.hpp -/
  defaultExtension : BoxExtension R

/-- spline.getCollisionPointIn2D(polygon, false, true): CatmullRomSpline::getCollisionPointIn2D(polygon, false) of the
context's spline (the third argument is not a parameter of that function in catmull_rom_spline.cpp) -/
def QueryContext.getCollisionPointIn2D (ctx : QueryContext R Q) (polygon : List (Point R)) : Option R :=
  match h : ctx.spline.getCollisionPointIn2DPolygon ctx.search polygon false with
  | .ok s => s
  | .error _ => absurd (ctx.collision_ok polygon) fun ⟨_, hs⟩ => by rw [h] at hs; cases hs

theorem QueryContext.getCollisionPointIn2D_eq (ctx : QueryContext R Q) (polygon : List (Point R)) :
    ctx.spline.getCollisionPointIn2DPolygon ctx.search polygon false = .ok (ctx.getCollisionPointIn2D polygon) := by
  unfold getCollisionPointIn2D
  split
  · assumption
  · rename_i h
    obtain ⟨_, hs⟩ := ctx.collision_ok polygon
    rw [h] at hs
    cases hs

/-- the loops of the queries that insert into a std::set<double> the distance of each element passing a test, when
it has one -/
def insertDistances {α : Type} (test : α → Bool) (distance : α → Option R) (xs : List α) (distances : List R) :
    List R :=
  xs.foldl (fun distances x =>
    if test x then
      match distance x with
      | some d => distances ++ [d]
      | none => distances
    else distances) distances

omit [LinearOrderedField R] in
theorem insertDistances_eq {α : Type} (test : α → Bool) (distance : α → Option R) (xs : List α)
    (distances : List R) : insertDistances test distance xs distances = distances ++ (xs.filter test).filterMap distance := by
  induction xs generalizing distances with
  | nil => simp [insertDistances]
  | cons x xs ih =>
    simp only [insertDistances] at ih ⊢
    rw [List.foldl_cons, ih]
    by_cases ht : test x <;> cases hd : distance x <;> simp [ht, hd, List.filter_cons]

/-- the begin() of a set is its least element -/
theorem min?_eq_some_iff' {ds : List R} {d : R} : ds.min? = some d ↔ d ∈ ds ∧ ∀ d' ∈ ds, d ≤ d' :=
  have : Std.Antisymm (α := R) (· ≤ ·) := ⟨le_antisymm⟩
  List.min?_eq_some_iff le_refl (fun a b => min_choice a b) (fun _ _ _ => le_min_iff)

/-! ## Right of way -/

section Queries

variable (ctx : QueryContext R Q) (others : EntityMap R Q)

/-- ActionNode::getOtherEntityStatus(lanelet_id): the entities with a valid lanelet pose on lanelet_id -/
def getOtherEntityStatus (lanelet_id : ℤ) : List (LaneletEntityStatus R Q) :=
  others.entries.filterMap fun status =>
    if status.2.laneletPoseValid ∧ status.2.laneletPose.laneletId = lanelet_id then some status.2 else none

/-- the inner loop of getYieldStopDistance, over the right-of-way lanelets of one following lanelet: the longitudinal
distance to the following lanelet, once for each right-of-way lanelet that another entity stands on -/
def yieldDistances (entity_status : LaneletEntityStatus R Q) (lanelet : ℤ) (distances : List R) : List R :=
  insertDistances (fun right_of_way_id => !(getOtherEntityStatus others right_of_way_id).isEmpty)
    (fun _ => ctx.getLongitudinalDistance entity_status.laneletPose.laneletId entity_status.laneletPose.s lanelet 0)
    (ctx.getRightOfWayLaneletIds lanelet) distances

/-- the outer loop of getYieldStopDistance, returning begin() as soon as the set is not empty -/
def yieldStopLoop (entity_status : LaneletEntityStatus R Q) : List ℤ → List R → Option R
  | [], _ => none
  | lanelet :: following_lanelets, distances =>
    let distances := yieldDistances ctx others entity_status lanelet distances
    if distances.isEmpty then yieldStopLoop entity_status following_lanelets distances else distances.min?

/-- ActionNode::getYieldStopDistance(following_lanelets) -/
def getYieldStopDistance (entity_status : LaneletEntityStatus R Q) (following_lanelets : List ℤ) : Option R :=
  yieldStopLoop ctx others entity_status following_lanelets []

/-- the following lanelet the entity yields at: the first with a right-of-way lanelet that another entity with a
valid lanelet pose stands on, and with a longitudinal distance from the entity -/
def yieldLanelet (entity_status : LaneletEntityStatus R Q) (following_lanelets : List ℤ) : Option ℤ :=
  following_lanelets.find? fun lanelet =>
    (ctx.getRightOfWayLaneletIds lanelet).any (fun r => !(getOtherEntityStatus others r).isEmpty) &&
      (ctx.getLongitudinalDistance entity_status.laneletPose.laneletId entity_status.laneletPose.s lanelet 0).isSome

/-- ActionNode::getRightOfWayEntities(following_lanelets): each entity once for every right-of-way lanelet of every
following lanelet that is its lanelet_id; at() of a following lanelet the map lacks throws std::out_of_range -/
def getRightOfWayEntities (following_lanelets : List ℤ) : Except Error (List (LaneletEntityStatus R Q)) :=
  let lanelet_ids_list := ctx.getRightOfWayLaneletIdsMap following_lanelets
  others.entries.foldlM (fun ret status =>
    following_lanelets.foldlM (fun ret following_lanelet =>
      match lanelet_ids_list following_lanelet with
      | none => .error .outOfRange
      | some lanelet_ids => .ok (lanelet_ids.foldl (fun ret lanelet_id =>
          if lanelet_id = status.2.laneletPose.laneletId then ret ++ [status.2] else ret) ret))
      ret) []

/-- ActionNode::getRightOfWayEntities(), for the right-of-way lanelets of the entity's own lanelet -/
def getRightOfWayEntitiesOfLanelet (entity_status : LaneletEntityStatus R Q) : List (LaneletEntityStatus R Q) :=
  let lanelet_ids := ctx.getRightOfWayLaneletIds entity_status.laneletPose.laneletId
  if lanelet_ids.isEmpty then []
  else others.entries.foldl (fun ret status => lanelet_ids.foldl (fun ret lanelet_id =>
    if lanelet_id = status.2.laneletPose.laneletId then ret ++ [status.2] else ret) ret) []

end Queries

/-- ActionNode::getEntityStatus(target_name) -/
def getEntityStatus (others : EntityMap R Q) (target_name : String) : Except Error (LaneletEntityStatus R Q) :=
  match others.entries.lookup target_name with
  | some status => .ok status
  | none => .error (.simulation ("other entity : " ++ target_name ++ " does not exist."))

/-- other_entity_status.at(name), which throws std::out_of_range for a name not in the map -/
def EntityMap.lookupAt (others : EntityMap R Q) (name : String) : Except Error (LaneletEntityStatus R Q) :=
  match others.entries.lookup name with
  | some status => .ok status
  | none => .error .outOfRange

section Queries

variable (ctx : QueryContext R Q) (others : EntityMap R Q)

/-! ## The front entity -/

/-- getDistanceToTargetEntityPolygon(spline, status, extensions): where the spline meets the entity's bounding box,
stretched by the extensions and placed at its pose, for a valid lanelet pose -/
def getDistanceToTargetEntityPolygonOfStatus (status : LaneletEntityStatus R Q) (extension : BoxExtension R) :
    Option R :=
  if status.laneletPoseValid then ctx.getCollisionPointIn2D (ctx.entityPolygon status extension) else none

/-- getDistanceToTargetEntityPolygon(spline, target_name, extensions) -/
def getDistanceToTargetEntityPolygon (target_name : String) (extension : BoxExtension R) :
    Except Error (Option R) := do
  let status ← getEntityStatus others target_name
  if status.laneletPoseValid then pure (getDistanceToTargetEntityPolygonOfStatus ctx status extension) else pure none

/-- one round of the loop of getFrontEntityName over other_entity_status: the entity joins entities, and its distance
distances, when its yaw relative to the entity is within ±π/2 and its distance is below 40 -/
def frontEntityStep (entity_status : LaneletEntityStatus R Q) (candidates : List String × List R)
    (each : String × LaneletEntityStatus R Q) : Except Error (List String × List R) := do
  let distance ← getDistanceToTargetEntityPolygon ctx others each.1 ctx.defaultExtension
  let other ← others.lookupAt each.1
  if |ctx.relativeYaw entity_status.pose.orientation other.pose.orientation| ≤ ctx.halfPi then
    match distance with
    | some d => if d < 40 then pure (candidates.1 ++ [each.1], candidates.2 ++ [d]) else pure candidates
    | none => pure candidates
  else pure candidates

/-- ActionNode::getFrontEntityName(spline): the entity at the first least distance (std::min_element) -/
def getFrontEntityName (entity_status : LaneletEntityStatus R Q) : Except Error (Option String) := do
  let candidates ← others.entries.foldlM (frontEntityStep ctx others entity_status) ([], [])
  let entities := candidates.1
  let distances := candidates.2
  if entities.length ≠ distances.length then
    throw (.simulation "size of entities and distances vector does not match.")
  if distances.isEmpty then pure none
  else pure (match distances.min? with
    | some d => entities[distances.indexOf d]?
    | none => none)

/-- ActionNode::getDistanceToFrontEntity(spline) -/
def getDistanceToFrontEntity (entity_status : LaneletEntityStatus R Q) : Except Error (Option R) := do
  match ← getFrontEntityName ctx others entity_status with
  | none => pure none
  | some name => getDistanceToTargetEntityPolygon ctx others name ctx.defaultExtension

/-- the distance of an entity ahead of entity_status: its yaw relative to the entity within ±π/2, its lanelet pose
valid and its distance below 40 -/
def frontDistance (entity_status status : LaneletEntityStatus R Q) : Option R :=
  if |ctx.relativeYaw entity_status.pose.orientation status.pose.orientation| ≤ ctx.halfPi then
    (getDistanceToTargetEntityPolygonOfStatus ctx status ctx.defaultExtension).filter (· < 40)
  else none

/-! ## Traffic lights and conflicting entities -/

/-- ActionNode::getDistanceToTrafficLightStopLine(route_lanelets, spline): the nearest stop line of a traffic light on
the path showing a red or yellow solid circle -/
def getDistanceToTrafficLightStopLine (route_lanelets : List ℤ) : Option R :=
  let traffic_light_ids := ctx.getTrafficLightIdsOnPath route_lanelets
  if traffic_light_ids.isEmpty then none
  else
    let collision_points := insertDistances
      (fun id => ctx.containsRedSolidOnCircle id || ctx.containsYellowSolidOnCircle id)
      (ctx.getDistanceToTrafficLightStopLine ctx.spline) traffic_light_ids []
    if collision_points.isEmpty then none else collision_points.min?

/-- the entities whose lanelet_id is among conflicting_ids (std::count ≥ 1), as both conflicting-entity queries
collect them -/
def conflictingEntityStatus (conflicting_ids : List ℤ) : List (LaneletEntityStatus R Q) :=
  others.entries.filterMap fun status =>
    if conflicting_ids.count status.2.laneletPose.laneletId ≥ 1 then some status.2 else none

/-- ActionNode::getConflictingEntityStatusOnCrossWalk(route_lanelets) -/
def getConflictingEntityStatusOnCrossWalk (route_lanelets : List ℤ) : List (LaneletEntityStatus R Q) :=
  conflictingEntityStatus others (ctx.getConflictingCrosswalkIds route_lanelets)

/-- ActionNode::getConflictingEntityStatusOnLane(route_lanelets) -/
def getConflictingEntityStatusOnLane (route_lanelets : List ℤ) : List (LaneletEntityStatus R Q) :=
  conflictingEntityStatus others (ctx.getConflictingLaneIds route_lanelets)

/-- ActionNode::getDistanceToTargetEntityOnCrosswalk(spline, status): where the spline meets the polygon of the
entity's lanelet, for a valid lanelet pose -/
def getDistanceToTargetEntityOnCrosswalk (status : LaneletEntityStatus R Q) : Option R :=
  if status.laneletPoseValid then ctx.getCollisionPointIn2D (ctx.getLaneletPolygon status.laneletPose.laneletId)
  else none

/-- ActionNode::getDistanceToConflictingEntity(route_lanelets, spline) -/
def getDistanceToConflictingEntity (route_lanelets : List ℤ) : Option R :=
  let crosswalk_entity_status := getConflictingEntityStatusOnCrossWalk ctx others route_lanelets
  let lane_entity_status := getConflictingEntityStatusOnLane ctx others route_lanelets
  let distances := insertDistances (fun _ => true) (getDistanceToTargetEntityOnCrosswalk ctx)
    crosswalk_entity_status []
  let distances := insertDistances (fun _ => true)
    (fun status => getDistanceToTargetEntityPolygonOfStatus ctx status ⟨0, 0, 0, 1⟩) lane_entity_status distances
  if distances.isEmpty then none else distances.min?

/-- ActionNode::foundConflictingEntity(following_lanelets): whether an entity stands on a conflicting crosswalk or
lane, returning at the first -/
def foundConflictingEntity (following_lanelets : List ℤ) : Bool :=
  let conflicting_crosswalks := ctx.getConflictingCrosswalkIds following_lanelets
  let conflicting_lanes := ctx.getConflictingLaneIds following_lanelets
  others.entries.any fun status =>
    conflicting_crosswalks.count status.2.laneletPose.laneletId ≥ 1 ||
      conflicting_lanes.count status.2.laneletPose.laneletId ≥ 1

/-- d is the distance getDistanceToConflictingEntity takes for an entity: on a conflicting crosswalk, to its
crosswalk; on a conflicting lane, to its box stretched 1 to the rear -/
def ConflictDistance (route_lanelets : List ℤ) (status : LaneletEntityStatus R Q) (d : R) : Prop :=
  (status.laneletPose.laneletId ∈ ctx.getConflictingCrosswalkIds route_lanelets ∧
      getDistanceToTargetEntityOnCrosswalk ctx status = some d) ∨
    (status.laneletPose.laneletId ∈ ctx.getConflictingLaneIds route_lanelets ∧
      getDistanceToTargetEntityPolygonOfStatus ctx status ⟨0, 0, 0, 1⟩ = some d)

end Queries

/-! ## What the queries return -/

section Results

variable {ctx : QueryContext R Q} {others : EntityMap R Q}

omit [LinearOrderedField R] in
/-- an Except fold whose every step succeeds is the plain fold -/
theorem foldlM_eq_ok {α β : Type} {f : β → α → Except Error β} {g : β → α → β} {l : List α}
    (h : ∀ x ∈ l, ∀ b, f b x = .ok (g b x)) (b : β) : l.foldlM f b = .ok (l.foldl g b) := by
  induction l generalizing b with
  | nil => rfl
  | cons x l ih =>
    rw [List.foldlM_cons, h x (List.mem_cons_self x l), List.foldl_cons]
    exact ih (fun y hy => h y (List.mem_cons_of_mem x hy)) _

omit [LinearOrderedField R] in
theorem ite_isEmpty_min? [Min R] (ds : List R) : (if ds.isEmpty then none else ds.min?) = ds.min? := by
  cases ds <;> rfl

/-- getYieldStopDistance, with its set kept across following lanelets and its early return, is the longitudinal
distance to the first following lanelet with a right-of-way lanelet that another entity with a valid lanelet pose
stands on, among those the map gives a distance to -/
theorem getYieldStopDistance_eq (entity_status : LaneletEntityStatus R Q) (following_lanelets : List ℤ) :
    getYieldStopDistance ctx others entity_status following_lanelets =
      (yieldLanelet ctx others entity_status following_lanelets).bind fun lanelet =>
        ctx.getLongitudinalDistance entity_status.laneletPose.laneletId entity_status.laneletPose.s lanelet 0 := by
  induction following_lanelets with
  | nil => rfl
  | cons lanelet following_lanelets ih =>
    simp only [getYieldStopDistance, yieldStopLoop, yieldDistances, insertDistances_eq, List.nil_append,
      yieldLanelet, List.find?_cons] at ih ⊢
    set occupied := (ctx.getRightOfWayLaneletIds lanelet).filter fun r => !(getOtherEntityStatus others r).isEmpty
    cases hd : ctx.getLongitudinalDistance entity_status.laneletPose.laneletId entity_status.laneletPose.s lanelet 0 with
    | none => simpa [hd, List.filterMap_eq_nil_iff.2 fun _ _ => rfl] using ih
    | some d =>
      rw [show (fun _ : ℤ => some d) = some ∘ fun _ => d from rfl, List.filterMap_eq_map, List.map_const']
      by_cases ho : (ctx.getRightOfWayLaneletIds lanelet).any (fun r => !(getOtherEntityStatus others r).isEmpty)
      case pos =>
        have hpos : 0 < occupied.length := by
          rw [List.length_pos, ne_eq, List.filter_eq_nil_iff]
          simpa using ho
        simp [ho, hd, List.min?_replicate_of_pos (min_self d) hpos, hpos.ne']
      case neg =>
        have hz : occupied = [] := by
          rw [List.filter_eq_nil_iff]
          simpa using ho
        simpa [ho, hz] using ih

omit [LinearOrderedField R] in
/-- the innermost loop of the right-of-way queries pushes the status once for each right-of-way lanelet that is its
lanelet -/
theorem foldl_push_eq (status : LaneletEntityStatus R Q) (lanelet_ids : List ℤ) (ret : List (LaneletEntityStatus R Q)) :
    lanelet_ids.foldl (fun ret lanelet_id =>
        if lanelet_id = status.laneletPose.laneletId then ret ++ [status] else ret) ret =
      ret ++ List.replicate (lanelet_ids.count status.laneletPose.laneletId) status := by
  induction lanelet_ids generalizing ret with
  | nil => simp
  | cons l ls ih =>
    rw [List.foldl_cons, ih, List.count_cons]
    by_cases h : l = status.laneletPose.laneletId <;> simp [h, List.replicate_succ]

omit [LinearOrderedField R] in
theorem foldl_append_eq_flatMap {α β : Type} (f : α → List β) (l : List α) (ret : List β) :
    l.foldl (fun ret x => ret ++ f x) ret = ret ++ l.flatMap f := by
  induction l generalizing ret with
  | nil => simp
  | cons x l ih => simp [ih]

/-- where every following lanelet has its entry, getRightOfWayEntities(following_lanelets) holds each entity once
for every pair of a following lanelet and a right-of-way lanelet of it that is the entity's lanelet -/
theorem getRightOfWayEntities_eq {following_lanelets : List ℤ} {ids : ℤ → List ℤ}
    (hkeys : ∀ l ∈ following_lanelets, ctx.getRightOfWayLaneletIdsMap following_lanelets l = some (ids l)) :
    getRightOfWayEntities ctx others following_lanelets = .ok (others.entries.flatMap fun status =>
      following_lanelets.flatMap fun l => List.replicate ((ids l).count status.2.laneletPose.laneletId) status.2) := by
  rw [getRightOfWayEntities, foldlM_eq_ok (g := fun ret status => ret ++ following_lanelets.flatMap fun l =>
    List.replicate ((ids l).count status.2.laneletPose.laneletId) status.2), foldl_append_eq_flatMap, List.nil_append]
  intro status _ ret
  rw [foldlM_eq_ok (g := fun ret l => ret ++ List.replicate ((ids l).count status.2.laneletPose.laneletId) status.2),
    foldl_append_eq_flatMap]
  intro l hl ret
  rw [hkeys l hl]
  exact congrArg Except.ok (foldl_push_eq status.2 (ids l) ret)

/-- where every following lanelet has its entry, getRightOfWayEntities(following_lanelets) succeeds, and finds no
entity exactly when no entity's lanelet_id is a right-of-way lanelet of a following lanelet, whether its lanelet pose
is valid or not -/
theorem getRightOfWayEntities_eq_nil_iff {following_lanelets : List ℤ} {ids : ℤ → List ℤ}
    (hkeys : ∀ l ∈ following_lanelets, ctx.getRightOfWayLaneletIdsMap following_lanelets l = some (ids l)) :
    ∃ ret, getRightOfWayEntities ctx others following_lanelets = .ok ret ∧
      (ret = [] ↔ ∀ each ∈ others.entries, ∀ l ∈ following_lanelets, each.2.laneletPose.laneletId ∉ ids l) :=
  ⟨_, getRightOfWayEntities_eq hkeys,
    by simp only [List.flatMap_eq_nil_iff, List.replicate_eq_nil_iff, List.count_eq_zero]⟩

/-- a map where every lanelet has right-of-way lanelet 5 and lanelet 7 is a conflicting crosswalk; the spline, of
one control point, meets nothing -/
def rightOfWayContext : QueryContext R Unit where
  getRightOfWayLaneletIds _ := [5]
  getRightOfWayLaneletIdsMap _ _ := some [5]
  getLongitudinalDistance _ _ _ _ := some 12
  getConflictingCrosswalkIds _ := [7]
  getConflictingLaneIds _ := []
  getLaneletPolygon _ := []
  getTrafficLightIdsOnPath _ := []
  containsRedSolidOnCircle _ := false
  containsYellowSolidOnCircle _ := false
  getDistanceToTrafficLightStopLine _ _ := none
  getDistanceToStopLine _ := none
  spline := ⟨[⟨0, 0, 0⟩], [], [], [], [], 0⟩
  search _ _ _ _ := none
  collision_ok _ := ⟨none, rfl⟩
  entityPolygon _ _ := []
  relativeYaw _ _ := 0
  halfPi := 1
  defaultExtension := ⟨0, 0, 0, 0⟩

/-- one entity, its lanelet pose invalid, whose last lanelet_id is l -/
def staleEntityOn (l : ℤ) : EntityMap R Unit :=
  ⟨[("npc", ⟨0, ⟨0, ()⟩, ⟨0, 0⟩, ⟨0, 0⟩, 0, ⟨l, 0, 0, 0⟩, false⟩)], List.nodup_singleton _⟩

/-- one entity, its lanelet pose invalid, whose last lanelet_id is the right-of-way lanelet 5 -/
def staleOnRightOfWay : EntityMap ℚ Unit := staleEntityOn 5

theorem getRightOfWayEntities_staleOnRightOfWay :
    ∃ ret, getRightOfWayEntities rightOfWayContext staleOnRightOfWay [1] = .ok ret ∧
      (ret = [] ↔ ∀ each ∈ staleOnRightOfWay.entries, ∀ l ∈ ([1] : List ℤ), each.2.laneletPose.laneletId ∉ [5]) :=
  @getRightOfWayEntities_eq_nil_iff ℚ Unit _ rightOfWayContext staleOnRightOfWay [1] (fun _ => [5]) fun _ _ => rfl

/- the entity with the invalid pose makes FollowLaneAction's right-of-way check fire, while the yield stop distance
does not see it -/
example : (getRightOfWayEntities rightOfWayContext staleOnRightOfWay [1]).toOption.map List.length = some 1 := rfl

example : getYieldStopDistance rightOfWayContext staleOnRightOfWay (restingAt 1 0) [1] = none := rfl

omit [LinearOrderedField R] in
/-- in a map with distinct names, an entry is what its name looks up -/
theorem EntityMap.lookup_of_mem {name : String} {status : LaneletEntityStatus R Q}
    (h : (name, status) ∈ others.entries) : others.entries.lookup name = some status := by
  obtain ⟨entries, nodup⟩ := others
  induction entries with
  | nil => cases h
  | cons e es ih =>
    obtain ⟨k, b⟩ := e
    rw [List.map_cons, List.nodup_cons] at nodup
    rcases List.mem_cons.1 h with h | h
    case inl =>
      cases h
      exact List.lookup_cons_self
    case inr =>
      have hne : (name == k) = false := by
        simpa using fun heq : name = k => nodup.1 (heq ▸ (List.mem_map_of_mem Prod.fst h : name ∈ es.map Prod.fst))
      rw [List.lookup_cons, hne]
      exact ih nodup.2 h

theorem getDistanceToTargetEntityPolygon_of_mem {name : String} {status : LaneletEntityStatus R Q}
    (h : (name, status) ∈ others.entries) (extension : BoxExtension R) :
    getDistanceToTargetEntityPolygon ctx others name extension =
      .ok (getDistanceToTargetEntityPolygonOfStatus ctx status extension) := by
  cases hv : status.laneletPoseValid <;>
    simp [getDistanceToTargetEntityPolygon, getEntityStatus, EntityMap.lookup_of_mem h, hv, bind, Except.bind, pure,
      Except.pure, getDistanceToTargetEntityPolygonOfStatus]

/-- one round of getFrontEntityName's loop over an entry of the map never throws, and keeps the entity exactly when
it has a `frontDistance` -/
theorem frontEntityStep_of_mem (entity_status : LaneletEntityStatus R Q) {each : String × LaneletEntityStatus R Q}
    (h : each ∈ others.entries) (candidates : List String × List R) :
    frontEntityStep ctx others entity_status candidates each = .ok (match frontDistance ctx entity_status each.2 with
      | some d => (candidates.1 ++ [each.1], candidates.2 ++ [d])
      | none => candidates) := by
  have hlookup : others.lookupAt each.1 = .ok each.2 := by simp [EntityMap.lookupAt, EntityMap.lookup_of_mem h]
  simp only [frontEntityStep, getDistanceToTargetEntityPolygon_of_mem h, hlookup, bind, Except.bind, frontDistance]
  split_ifs
  · cases getDistanceToTargetEntityPolygonOfStatus ctx each.2 ctx.defaultExtension with
    | none => rfl
    | some d => by_cases hd : d < 40 <;> simp [hd, Option.filter, pure, Except.pure]
  · rfl

omit [LinearOrderedField R] in
theorem foldl_candidates {α : Type} (f : α → Option R) (name : α → String) (l : List α)
    (candidates : List String × List R) :
    l.foldl (fun candidates each => match f each with
      | some d => (candidates.1 ++ [name each], candidates.2 ++ [d])
      | none => candidates) candidates =
      (candidates.1 ++ (l.filterMap fun each => (f each).map (name each, ·)).map Prod.fst,
        candidates.2 ++ (l.filterMap fun each => (f each).map (name each, ·)).map Prod.snd) := by
  induction l generalizing candidates with
  | nil => simp
  | cons x l ih => cases hx : f x <;> simp [hx, ih]

/-- std::min_element over distances, read back in entities, names a candidate at that distance -/
theorem getElem?_indexOf_min {cs : List (String × R)} {d : R} (hd : d ∈ cs.map Prod.snd) :
    ∃ name, (cs.map Prod.fst)[(cs.map Prod.snd).indexOf d]? = some name ∧ (name, d) ∈ cs := by
  have hk := List.indexOf_lt_length.2 hd
  have hlt : (cs.map Prod.snd).indexOf d < cs.length := by simpa using hk
  have h2 : cs[(cs.map Prod.snd).indexOf d].2 = d := by
    have := List.getElem_indexOf hk
    rwa [List.getElem_map] at this
  refine ⟨cs[(cs.map Prod.snd).indexOf d].1, by simp [hlt], ?_⟩
  rw [show (cs[(cs.map Prod.snd).indexOf d].1, d) = cs[(cs.map Prod.snd).indexOf d] from Prod.ext rfl h2.symm]
  exact List.getElem_mem hlt

/-- the front entity's name, looked up again in a map with distinct names, gives back its distance -/
theorem getDistanceToFrontEntity_ok (entity_status : LaneletEntityStatus R Q) :
    getDistanceToFrontEntity ctx others entity_status =
      .ok (others.entries.filterMap fun each => frontDistance ctx entity_status each.2).min? := by
  set cs := others.entries.filterMap fun each => (frontDistance ctx entity_status each.2).map (each.1, ·) with hcs
  have hfold : others.entries.foldlM (frontEntityStep ctx others entity_status) ([], []) =
      .ok (cs.map Prod.fst, cs.map Prod.snd) := by
    rw [foldlM_eq_ok (fun each h candidates => frontEntityStep_of_mem entity_status h candidates), foldl_candidates]
    rfl
  have hsnd : cs.map Prod.snd = others.entries.filterMap fun each => frontDistance ctx entity_status each.2 := by
    rw [hcs, List.map_filterMap]
    simp [Option.map_map, Function.comp_def]
  rw [← hsnd]
  simp only [getDistanceToFrontEntity, getFrontEntityName, hfold, bind, Except.bind, List.length_map, ne_eq,
    not_true_eq_false, if_false, pure, Except.pure]
  rcases hmin : (cs.map Prod.snd).min? with _ | d
  case none => simp [List.min?_eq_none_iff.1 hmin]
  case some =>
    have hd := List.min?_mem (fun a b => min_choice a b) hmin
    obtain ⟨name, hname, hmem⟩ := getElem?_indexOf_min hd
    obtain ⟨each, heach, hfd⟩ := List.mem_filterMap.1 (hcs ▸ hmem)
    obtain ⟨d', hfd', hpair⟩ := Option.map_eq_some'.1 hfd
    obtain ⟨rfl, rfl⟩ := Prod.mk.inj hpair
    have hpoly : getDistanceToTargetEntityPolygonOfStatus ctx each.2 ctx.defaultExtension = some d' := by
      simp only [frontDistance] at hfd'
      split_ifs at hfd'
      exact (Option.filter_eq_some.1 hfd').1
    simp [List.ne_nil_of_mem hd, hname, getDistanceToTargetEntityPolygon_of_mem heach, hpoly]

/-- getDistanceToFrontEntity never throws, and is the least distance among the entities ahead -/
theorem getDistanceToFrontEntity_eq (entity_status : LaneletEntityStatus R Q) :
    getDistanceToFrontEntity ctx others entity_status =
      .ok (others.entries.filterMap fun each => frontDistance ctx entity_status each.2).min? :=
  getDistanceToFrontEntity_ok entity_status

/-- getDistanceToTrafficLightStopLine is the nearest stop line of the traffic lights on the path that show a red or
yellow solid circle; both early returns agree with that minimum -/
theorem getDistanceToTrafficLightStopLine_eq_some_iff {route_lanelets : List ℤ} {d : R} :
    getDistanceToTrafficLightStopLine ctx route_lanelets = some d ↔
      (∃ id ∈ ctx.getTrafficLightIdsOnPath route_lanelets,
        (ctx.containsRedSolidOnCircle id || ctx.containsYellowSolidOnCircle id) ∧
          ctx.getDistanceToTrafficLightStopLine ctx.spline id = some d) ∧
      ∀ d', (∃ id ∈ ctx.getTrafficLightIdsOnPath route_lanelets,
        (ctx.containsRedSolidOnCircle id || ctx.containsYellowSolidOnCircle id) ∧
          ctx.getDistanceToTrafficLightStopLine ctx.spline id = some d') → d ≤ d' := by
  have hempty : ∀ ids : List ℤ, (if ids.isEmpty then none else
      (((ids.filter fun id => ctx.containsRedSolidOnCircle id || ctx.containsYellowSolidOnCircle id).filterMap
        (ctx.getDistanceToTrafficLightStopLine ctx.spline)).min?)) = ((ids.filter fun id =>
          ctx.containsRedSolidOnCircle id || ctx.containsYellowSolidOnCircle id).filterMap
            (ctx.getDistanceToTrafficLightStopLine ctx.spline)).min? := by
    intro ids
    cases ids <;> rfl
  simp only [getDistanceToTrafficLightStopLine, insertDistances_eq, List.nil_append, ite_isEmpty_min?, hempty]
  rw [min?_eq_some_iff']
  simp [and_assoc]

omit [LinearOrderedField R] in
theorem mem_conflictingEntityStatus {ids : List ℤ} {status : LaneletEntityStatus R Q} :
    status ∈ conflictingEntityStatus others ids ↔
      ∃ each ∈ others.entries, each.2.laneletPose.laneletId ∈ ids ∧ each.2 = status := by
  simp only [conflictingEntityStatus, List.mem_filterMap, ge_iff_le, List.one_le_count_iff,
    Option.ite_none_right_eq_some, Option.some.injEq]

/-- getDistanceToConflictingEntity is the least `ConflictDistance` of the entities on a conflicting crosswalk or
lane -/
theorem getDistanceToConflictingEntity_eq_some_iff {route_lanelets : List ℤ} {d : R} :
    getDistanceToConflictingEntity ctx others route_lanelets = some d ↔
      (∃ each ∈ others.entries, ConflictDistance ctx route_lanelets each.2 d) ∧
      ∀ d', (∃ each ∈ others.entries, ConflictDistance ctx route_lanelets each.2 d') → d ≤ d' := by
  simp only [getDistanceToConflictingEntity, insertDistances_eq, List.filter_true, List.nil_append, ite_isEmpty_min?]
  have hmem : ∀ d, d ∈ (getConflictingEntityStatusOnCrossWalk ctx others route_lanelets).filterMap
      (getDistanceToTargetEntityOnCrosswalk ctx) ++ (getConflictingEntityStatusOnLane ctx others route_lanelets).filterMap
      (fun status => getDistanceToTargetEntityPolygonOfStatus ctx status ⟨0, 0, 0, 1⟩) ↔
      ∃ each ∈ others.entries, ConflictDistance ctx route_lanelets each.2 d := by
    intro d
    simp only [List.mem_append, List.mem_filterMap, getConflictingEntityStatusOnCrossWalk,
      getConflictingEntityStatusOnLane, mem_conflictingEntityStatus, ConflictDistance]
    constructor
    · rintro (⟨_, ⟨each, heach, hid, rfl⟩, hd⟩ | ⟨_, ⟨each, heach, hid, rfl⟩, hd⟩)
      · exact ⟨each, heach, .inl ⟨hid, hd⟩⟩
      · exact ⟨each, heach, .inr ⟨hid, hd⟩⟩
    · rintro ⟨each, heach, ⟨hid, hd⟩ | ⟨hid, hd⟩⟩
      · exact .inl ⟨_, ⟨each, heach, hid, rfl⟩, hd⟩
      · exact .inr ⟨_, ⟨each, heach, hid, rfl⟩, hd⟩
  simp only [min?_eq_some_iff', hmem]

/-- foundConflictingEntity, which returns at the first entity on a conflicting crosswalk or lane, agrees with the two
queries that collect them -/
theorem foundConflictingEntity_iff {following_lanelets : List ℤ} :
    foundConflictingEntity ctx others following_lanelets = true ↔
      getConflictingEntityStatusOnCrossWalk ctx others following_lanelets ++
        getConflictingEntityStatusOnLane ctx others following_lanelets ≠ [] := by
  rw [Ne, List.append_eq_nil, not_and_or]
  simp only [foundConflictingEntity, getConflictingEntityStatusOnCrossWalk, getConflictingEntityStatusOnLane,
    List.eq_nil_iff_forall_not_mem, mem_conflictingEntityStatus, List.any_eq_true, Bool.or_eq_true, decide_eq_true_eq,
    ge_iff_le, List.one_le_count_iff, not_forall, not_not, exists_or, and_or_left]
  rw [@exists_comm (LaneletEntityStatus R Q), @exists_comm (LaneletEntityStatus R Q)]
  simp only [exists_and_left, exists_eq', and_true]

end Results

end ScenarioSimulator.EntityBehavior
