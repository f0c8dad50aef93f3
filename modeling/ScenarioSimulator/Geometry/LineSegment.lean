/-
Line segments: the representation of a two-point spline and the edges of a collision polygon.

Both routines, from line_segment.cpp, are modelled from the spec (4.1):
- `getLineSegments`: the ordered boundary edges of a point list (consecutive pairs and the closing edge), none for
  fewer than two points;
- `LineSegment.getIntersection2DSValue`: the intersection of two segments in the xy-plane, as the parameter of the
  intersection along `this` segment; none for parallel segments and for an intersection of the carrying lines that
  lies outside either segment.
-/
import ScenarioSimulator.Geometry.Basic

namespace ScenarioSimulator.Geometry

variable {R : Type}

/-- a segment from `startPoint` to `endPoint` -/
structure LineSegment (R : Type) where
  startPoint : Point R
  endPoint : Point R
deriving DecidableEq, Repr

/-- Modelled from the spec: the ordered boundary edges of a polygon (or of the control points of a line spline) -/
def getLineSegments : List (Point R) → List (LineSegment R)
  | [] => []
  | [_] => []
  | p :: q :: rest => (List.zipWith LineSegment.mk (p :: q :: rest) (q :: rest)) ++ [⟨(q :: rest).getLast (by simp), p⟩]

theorem getLineSegments_pair (a b : Point R) : getLineSegments [a, b] = [⟨a, b⟩, ⟨b, a⟩] := rfl

variable [LinearOrderedField R]

/-- z-component of the cross product of the xy-parts -/
def cross2 (p q : Point R) : R := p.x * q.y - p.y * q.x

/-- Modelled from the spec: the intersection parameter along `l` of its crossing with `other`, by Cramer's rule -/
def LineSegment.getIntersection2DSValue (l other : LineSegment R) : Option R :=
  let r := l.endPoint - l.startPoint
  let s := other.endPoint - other.startPoint
  let w := other.startPoint - l.startPoint
  let denom := cross2 r s
  if denom = 0 then none
  else
    let t := cross2 w s / denom
    let u := cross2 w r / denom
    if 0 ≤ t ∧ t ≤ 1 ∧ 0 ≤ u ∧ u ≤ 1 then some t else none

end ScenarioSimulator.Geometry
