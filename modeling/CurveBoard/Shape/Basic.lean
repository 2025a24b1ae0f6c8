import CurveBoard.Shape.Axes
import CurveBoard.Shape.Round
import CurveBoard.Shape.Stroke

/-!
# Shapes

What can be drawn beside curves, given in coordinates of the plane, and the primitives of each in a
viewport. Drawing a shape again in another viewport needs nothing but the shape.
-/
namespace CurveBoard

inductive Shape (α : Type)
  | arrowhead (tail tip : Point α)
  | line (p q : Point α) (toExtremities : Bool)
  | segment (p q : Point α) (marker : Marker)
  | path (points : List (Point α)) (closed : Bool)
  | polygon (points : List (Point α))
  | ellipse (center : Point α) (rx ry : α)
  | rect (p q : Point α) (rx ry : CornerRadius α)
  | text (p : Point α) (content : String) (position : Option TextPosition)
  | dot (center : Point α) (type : DotType) (label : Option (String × Option TextPosition))
  | arc (start stop : Point α) (radius : Option α) (marker : Marker)
  | angleArc (vertex : Point α) (radius start stop : α)
  | axes (style : AxesStyle α)

namespace Shape

variable {α : Type} [Geometry α]

/-- The primitives of a shape; their ids start with the shape's. -/
def primitives (v : Viewport α) (id : String) : Shape α → Drawn α (List (Primitive α))
  | arrowhead tail tip => (arrowShape v id tail tip).map ([·])
  | line p q toExtremities => lineShape v id p q toExtremities
  | segment p q marker => segmentShape v id p q marker
  | path points closed => pathShape v id points closed
  | polygon points => polygonShape v id points
  | ellipse center rx ry => ellipseShape v id center rx ry
  | rect p q rx ry => .ok (rectShape v id p q rx ry)
  | text p content position => (textPrimitive v id p content position).map ([·])
  | dot center type label => dotShape v id center type label
  | arc start stop radius marker => arcShape v id start stop radius marker
  | angleArc vertex radius start stop => angleArcShape v id vertex radius start stop
  | axes style => axesShape v id style

end Shape

end CurveBoard
