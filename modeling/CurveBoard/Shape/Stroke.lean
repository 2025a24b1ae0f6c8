import CurveBoard.Shape.Arrow

/-!
# Lines, segments and paths

A line through two points is drawn from edge to edge of a rectangle. A segment stops short of a disc
at its end, so that an open disc stays open.
-/
namespace CurveBoard

open Scalar

variable {α : Type}

/-- Where a line through two different points enters and leaves a rectangle. -/
def frameCrossings [Scalar α] (p q : Point α) (b : Bounds α) :
    Except ArithmeticFault (Point α × Point α) :=
  if p.1 == q.1 then .ok ((p.1, b.yMin), (p.1, b.yMax))
  else if p.2 == q.2 then .ok ((b.xMin, p.2), (b.xMax, p.2))
  else do
    let slope ← quotient (q.2 - p.2) (q.1 - p.1)
    let yAtStart := slope * (b.xMin - p.1) + p.2
    let start ←
      if b.yMin < yAtStart && yAtStart < b.yMax then pure (b.xMin, yAtStart)
      else
        let edge := if 0.0 < slope then b.yMin else b.yMax
        (quotient (edge - p.2) slope).map fun dx => (dx + p.1, edge)
    let yAtEnd := slope * (b.xMax - q.1) + q.2
    let stop ←
      if b.yMin < yAtEnd && yAtEnd < b.yMax then pure (b.xMax, yAtEnd)
      else
        let edge := if 0.0 < slope then b.yMax else b.yMin
        (quotient (edge - q.2) slope).map fun dx => (dx + q.1, edge)
    return (start, stop)

variable [Geometry α]

/-- The line through two points across the window, or across all that can be seen. -/
def lineShape (v : Viewport α) (id : String) (p q : Point α) (toExtremities : Bool) :
    Drawn α (List (Primitive α)) :=
  if samePoint p q then .error .lineOfOnePoint
  else do
    let b ← if toExtremities then calculated v.extendedBounds else pure v.window
    let (start, stop) ← calculated (frameCrossings p q b)
    return [Primitive.polylines id [devicePath v [start, stop]]]

/-- A segment with its markers. -/
def segmentShape (v : Viewport α) (id : String) (p q : Point α) (marker : Marker) :
    Drawn α (List (Primitive α)) := do
  let tail := v.toDevice p
  let tip := v.toDevice q
  let length := distance tail tip
  let (ux, uy) : α × α :=
    if length == 0.0 then (0.0, 0.0) else ((tip.1 - tail.1) / length, (tip.2 - tail.2) / length)
  let startDisc := marker == .dot || marker == .dotdot || marker == .dotarrow
  let endDisc := marker == .dotdot || marker == .arrowdot
  let startGap : α := if startDisc then 4.0 else 0.0
  let endGap : α := if endDisc then 4.0 else 0.0
  let stroke :=
    [roundedPoint (tail.1 + ux * startGap, tail.2 + uy * startGap),
      roundedPoint (tip.1 - ux * endGap, tip.2 - uy * endGap)]
  let discs :=
    (if startDisc then [Primitive.disc (id ++ "-start") (device v p) false] else [])
      ++ (if endDisc then [Primitive.disc (id ++ "-end") (device v q) true] else [])
  let arrows ← match marker with
    | .arrow | .dotarrow => (arrowPrimitive (id ++ "-ah") tail tip).map ([·])
    | .arrowdot =>
      let gap : α := 4.0 + 4.0
      (arrowPrimitive (id ++ "-ah") tail (tip.1 - ux * gap, tip.2 - uy * gap)).map ([·])
    | _ => pure []
  return Primitive.polylines id [stroke] :: (discs ++ arrows)

/-- A path through points, which returns to the first one if it is closed. -/
def pathShape (v : Viewport α) (id : String) (points : List (Point α)) (closed : Bool) :
    Drawn α (List (Primitive α)) :=
  match points with
  | first :: second :: rest =>
    let last := (second :: rest).getLast (List.cons_ne_nil _ _)
    let loop := if closed && !samePoint first last then [first] else []
    .ok [Primitive.polylines id [devicePath v (points ++ loop)]]
  | _ => .error .shortPath

def polygonShape (v : Viewport α) (id : String) (points : List (Point α)) :
    Drawn α (List (Primitive α)) :=
  if points.length < 3 then .error .smallPolygon
  else .ok [{ Primitive.blank id .polygon with paths := [devicePath v points] }]

end CurveBoard
