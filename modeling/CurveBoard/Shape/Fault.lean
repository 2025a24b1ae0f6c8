import CurveBoard.Shape.Primitive

/-!
# Shapes that cannot be drawn
-/
namespace CurveBoard

/-- Why a shape has no primitives. -/
inductive ShapeFault (α : Type)
  | endlessPoint (p : Point α)
  | lineOfOnePoint
  | arrowOfOnePoint
  | arcOfOnePoint
  | shortPath
  | smallPolygon
  | radiiNotPositive (rx ry : α)
  | radiusNotPositive (radius : α)
  | tickSpacingNotPositive (dx dy : α)
  | gridSpacingNotPositive
  | arithmetic (fault : ArithmeticFault)

namespace ShapeFault

def message : ShapeFault Float → String
  | endlessPoint p => s!"point must be finite, got ({floatText p.1}, {floatText p.2})"
  | lineOfOnePoint => "line needs two distinct points"
  | arrowOfOnePoint => "arrowhead needs two distinct points"
  | arcOfOnePoint => "arc needs two distinct endpoints"
  | shortPath => "path needs at least 2 points"
  | smallPolygon => "polygon needs at least 3 points"
  | radiiNotPositive rx ry => s!"radii must be positive, got ({floatText rx}, {floatText ry})"
  | radiusNotPositive radius => s!"radius must be positive, got {floatText radius}"
  | tickSpacingNotPositive dx dy =>
    s!"tick spacing must be positive, got dx={floatText dx}, dy={floatText dy}"
  | gridSpacingNotPositive => "grid spacing must be positive"
  | arithmetic fault => fault.message

end ShapeFault

/-- A step of a drawing. -/
abbrev Drawn (α β : Type) := Except (ShapeFault α) β

/-- Arithmetic in a drawing. -/
def calculated {α β : Type} (result : Except ArithmeticFault β) : Drawn α β :=
  result.mapError .arithmetic

end CurveBoard
