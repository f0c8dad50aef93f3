import ScenarioSimulator.Geometry.Basic
import ScenarioSimulator.Geometry.LineSegment
import ScenarioSimulator.Geometry.HermiteCurve
import ScenarioSimulator.Spline.Construction
import ScenarioSimulator.Spline.Resolution
import ScenarioSimulator.Spline.Bounds
import ScenarioSimulator.Spline.Trajectory
import ScenarioSimulator.Spline.Collision
import ScenarioSimulator.Spline.Continuity
import ScenarioSimulator.Behavior.ActionNode
import ScenarioSimulator.Behavior.FollowLaneAction
import ScenarioSimulator.Behavior.LaneletFrame
import ScenarioSimulator.Behavior.EntityQueries
import ScenarioSimulator.Behavior.FollowLanePlan
import ScenarioSimulator.Entity.EgoEntity
import ScenarioSimulator.Sensor.Grid
import ScenarioSimulator.Interpreter.ParameterDeclaration
