import CurveBoard.Shape.Arrow
import CurveBoard.Shape.Ticks

/-!
# Axes

The axes of a board: a grid if it is wanted, the two lines with their ticks, labels at the ticks
inside the window, and arrowheads and names at the ends. Where an axis lies outside the window, its
labels stand at the window's edge.
-/
namespace CurveBoard

open Scalar

/-- How axes are drawn. Spacings are in units of the plane. -/
structure AxesStyle (α : Type) where
  dx : α
  dy : α
  grid : Option (α × α)
  labels : Bool
  ordinates : Bool
  xName : String
  yName : String

variable {α : Type} [Geometry α]

def checkTickSpacing (dx dy : α) : Drawn α Unit :=
  if 0.0 < dx && 0.0 < dy then .ok () else .error (.tickSpacingNotPositive dx dy)

namespace Axes

/-- The device column of the axis of ordinates. -/
def column (v : Viewport α) : α := v.origin.1

/-- The device row of the axis of abscissas. -/
def row (v : Viewport α) : α := v.height - v.origin.2

/-- The columns at multiples of a step beside the axis of ordinates, to the right and then to the
left. -/
def columns (v : Viewport α) (step : α) : Except ArithmeticFault (List α) := do
  let x := column v
  let right ← marksBeside x step (v.width - x) (· + ·) (· < v.width)
  let left ← marksBeside x step x (· - ·) (0.0 < ·)
  return right ++ left

/-- The rows at multiples of a step beside the axis of abscissas, downwards and then upwards. The
padding stays free. -/
def rows (v : Viewport α) (step : α) : Except ArithmeticFault (List α) := do
  let y := row v
  let down ← marksBeside y step (v.height - y) (· + ·) (· < v.height - 0.99 * v.padding)
  let up ← marksBeside y step y (· - ·) (0.99 * v.padding < ·)
  return down ++ up

def gridPrimitive (v : Viewport α) (id : String) (style : AxesStyle α) (dx dy : α) :
    Drawn α (Primitive α) := do
  let (stepX, stepY) := v.toDeviceLength dx dy
  if !(0.0 < stepX && 0.0 < stepY) then throw .gridSpacingNotPositive
  let beside ← calculated (columns v stepX)
  let upright := ((column v :: beside).filter fun x => 0.0 ≤ x && x ≤ v.width).map fun x =>
    [(hundredths x, (0.0 : α)), (hundredths x, hundredths v.height)]
  let flat ←
    if style.ordinates then
      (calculated (rows v stepY)).map fun beside =>
        ((row v :: beside).filter fun y => 0.0 ≤ y && y ≤ v.height).map fun y =>
          [((0.0 : α), hundredths y), (hundredths v.width, hundredths y)]
    else pure []
  return Primitive.polylines (id ++ "-grid") (upright ++ flat)

/-- Half the length of a tick. -/
def tickReach (stepX stepY : α) : α :=
  larger 12.0 (smaller (smaller (stepX / 2.0) (stepY / 2.0)) fontSize) / 4.0

/-- The two lines and all ticks. Without an axis of ordinates there is a tick in its place. -/
def linesPrimitive (v : Viewport α) (id : String) (style : AxesStyle α) :
    Drawn α (Primitive α) := do
  let (stepX, stepY) := v.toDeviceLength style.dx style.dy
  let reach := tickReach stepX stepY
  let upright (x : α) := [roundedPoint (x, row v + reach), roundedPoint (x, row v - reach)]
  let flat (y : α) := [roundedPoint (column v + reach, y), roundedPoint (column v - reach, y)]
  let abscissas := [roundedPoint (0.0, row v), roundedPoint (v.width, row v)]
  let ordinates :=
    if style.ordinates then [roundedPoint (column v, 0.0), roundedPoint (column v, v.height)]
    else upright (column v)
  let xTicks ← calculated (columns v stepX)
  let yTicks ← if style.ordinates then calculated (rows v stepY) else pure []
  return Primitive.polylines id (abscissas :: ordinates :: (xTicks.map upright ++ yTicks.map flat))

/-- The coordinate of an axis, or of the window's edge if the window does not reach it. -/
def labelLine (low high : α) : α := if 0.0 < low || high < 0.0 then low else 0.0

/-- One label for every multiple of a step, numbered in their order. -/
def tickLabels (v : Viewport α) (mark : String) (values : List α) (decimals : Nat)
    (place : α → Point α) (position : TextPosition) : Drawn α (List (Primitive α)) :=
  values.zipIdx.mapM fun (value, i) =>
    textPrimitive v (mark ++ toString i) (place value) (tickText value decimals) (some position)

def labelPrimitives (v : Viewport α) (id : String) (style : AxesStyle α) :
    Drawn α (List (Primitive α)) := do
  let b := v.window
  let x := labelLine b.xMin b.xMax
  let y := labelLine b.yMin b.yMax
  let xPosition : TextPosition := .vertical (if y == 0.0 then .below else .above)
  let yPosition : TextPosition := .horizontal (if x == 0.0 then .left else .right)
  let xDecimals ← calculated (tickDecimals style.dx)
  let yDecimals ← calculated (tickDecimals style.dy)
  let xValues ← calculated (multiples style.dx b.xMin b.xMax)
  let xLabels ← tickLabels v (id ++ "-xtick-") xValues xDecimals (·, y) xPosition
  if style.ordinates then
    let yValues ← calculated (multiples style.dy b.yMin b.yMax)
    let yLabels ← tickLabels v (id ++ "-ytick-") yValues yDecimals (x, ·) yPosition
    return xLabels ++ yLabels
  else
    let zero ← textPrimitive v (id ++ "-xtick-origin") (0.0, y) "0" (some xPosition)
    return xLabels ++ [zero]

/-- Where the name at the end of an axis stands, seen from its point. -/
def namePosition : Axis → TextPosition
  | .x => .vertical .above
  | .y => .horizontal .right

/-- The arrowhead and the name at the end of an axis. -/
def axisEnd (v : Viewport α) (id name : String) (axis : Axis) :
    Drawn α (List (Primitive α)) := do
  let tip ← calculated (quotient v.padding (v.scale axis))
  let near ← calculated (quotient (v.padding - 10.0) (v.scale axis))
  let text ← textPrimitive v (id ++ ("-" ++ axis.letter ++ "name"))
    (axis.point (v.window.high axis + near) 0.0) name (some (namePosition axis))
  let arrow ← arrowShape v (id ++ ("-" ++ axis.letter ++ "arrow")) (0.0, 0.0)
    (axis.point (v.window.high axis + tip) 0.0)
  return [text, arrow]

end Axes

def axesShape (v : Viewport α) (id : String) (style : AxesStyle α) :
    Drawn α (List (Primitive α)) := do
  checkTickSpacing style.dx style.dy
  let grid ← match style.grid with
    | some (dx, dy) => (Axes.gridPrimitive v id style dx dy).map ([·])
    | none => pure []
  let lines ← Axes.linesPrimitive v id style
  let labels ← if style.labels then Axes.labelPrimitives v id style else pure []
  let xEnd ← Axes.axisEnd v id style.xName .x
  let yEnd ← if style.ordinates then Axes.axisEnd v id style.yName .y else pure []
  return grid ++ lines :: (labels ++ xEnd ++ yEnd)

end CurveBoard
