import CurveBoard.Viewport.Bounds

/-!
# Viewports

A viewport shows a rectangle of the plane, the window, inside a frame of device pixels. Between the
two lies a margin, the padding. Device coordinates start at the upper left corner and go down.

The window is given by its ranges. A range whose ends are in the wrong order is corrected to unit
length, which is reported as a warning. Without an upper end of the ordinates both axes get the same
scale, and the window is as high as the frame has room for.

Beside the window there are two larger rectangles: the extended bounds are all that can be seen, and
the plot bounds, where curves are sampled, go further by a fraction of the window's extent.
-/
namespace CurveBoard

open Scalar

inductive Axis
  | x
  | y
deriving DecidableEq, Repr

namespace Axis

def letter : Axis → String
  | x => "x"
  | y => "y"

/-- The point with a coordinate along an axis and another one across it. -/
def point {α : Type} (value line : α) : Axis → Point α
  | x => (value, line)
  | y => (line, value)

end Axis

namespace Bounds

variable {α : Type} (b : Bounds α)

def low : Axis → α
  | .x => b.xMin
  | .y => b.yMin

def high : Axis → α
  | .x => b.xMax
  | .y => b.yMax

end Bounds

/-- Why there is no viewport. -/
inductive ViewportFault (α : Type)
  | negativePadding (padding : α)
  | noDrawingArea (width height padding : α)
  | endlessRange (axis : Axis) (low high : α)
  | endlessStart (low : α)
  | arithmetic (fault : ArithmeticFault)

namespace ViewportFault

def message : ViewportFault Float → String
  | negativePadding padding => s!"padding must be >= 0, got {floatText padding}"
  | noDrawingArea width height padding =>
    s!"device size {floatText width}x{floatText height} leaves no drawing area "
      ++ s!"with padding {floatText padding}"
  | endlessRange axis low high =>
    s!"{axis.letter}-bounds must be finite, got ({floatText low}, {floatText high})"
  | endlessStart low => s!"y-bounds must be finite, got y_min={floatText low}"
  | arithmetic fault => fault.message

end ViewportFault

/-- How a corrected range is reported. -/
def correctionText (axis : Axis) : String :=
  let a := axis.letter
  s!"{a}_min >= {a}_max; {a}_max corrected to {a}_min + 1"

structure Viewport (α : Type) where
  width : α
  height : α
  padding : α
  /-- The part of the plane that is shown. -/
  window : Bounds α
  /-- Pixels per unit along each axis. -/
  xScale : α
  yScale : α
  /-- Where the origin of the plane is, measured from the lower left corner of the frame. -/
  origin : Point α
  /-- Whether the window's upper edge follows from the scale of the abscissas. -/
  equalScale : Bool
  overscan : α
deriving Repr

/-- Pixels per unit along an axis. -/
def Viewport.scale {α : Type} (v : Viewport α) : Axis → α
  | .x => v.xScale
  | .y => v.yScale

/-- What a viewport is made from. -/
structure ViewportRequest (α : Type) where
  width : α
  height : α
  padding : α
  xMin : α
  xMax : α
  yMin : α
  yMax : Option α
  overscan : α

/-- A range with its ends in order, and whether it had to be corrected. -/
structure CheckedRange (α : Type) where
  low : α
  high : α
  corrected : Bool

variable {α : Type} [Scalar α]

def checkFrame (width height padding : α) : Except (ViewportFault α) Unit :=
  if padding < 0.0 then .error (.negativePadding padding)
  else if !(isFinite width && isFinite height) || decide (width ≤ 2.0 * padding)
      || decide (height ≤ 2.0 * padding) then
    .error (.noDrawingArea width height padding)
  else .ok ()

def checkRange (axis : Axis) (low high : α) : Except (ViewportFault α) (CheckedRange α) :=
  if !(isFinite low && isFinite high) then .error (.endlessRange axis low high)
  else if high ≤ low then .ok ⟨low, low + 1.0, true⟩
  else .ok ⟨low, high, false⟩

namespace Viewport

/-- Pixels per unit where a range fills a side of the frame but for the padding. -/
def scaleFor (side padding low high : α) : Except (ViewportFault α) α :=
  (quotient (side - 2.0 * padding) (high - low)).mapError .arithmetic

def correctionOf (axis : Axis) (range : CheckedRange α) : List Axis :=
  if range.corrected then [axis] else []

/-- The ordinates and their scale, given the scale of the abscissas. -/
def ordinates (r : ViewportRequest α) (xScale : α) :
    List Axis × Except (ViewportFault α) (CheckedRange α × α) :=
  match r.yMax with
  | none =>
    if !isFinite r.yMin then ([], .error (.endlessStart r.yMin))
    else
      ([], ((quotient (r.height - 2.0 * r.padding) xScale).mapError .arithmetic).map fun extent =>
        (⟨r.yMin, r.yMin + extent, false⟩, xScale))
  | some yMax =>
    match checkRange .y r.yMin yMax with
    | .error fault => ([], .error fault)
    | .ok range =>
      (correctionOf .y range,
        (scaleFor r.height r.padding range.low range.high).map fun scale => (range, scale))

/-- The viewport for a request whose ranges and scales have been determined. -/
def assemble (r : ViewportRequest α) (x y : CheckedRange α) (xScale yScale : α) :
    Viewport α where
  width := r.width
  height := r.height
  padding := r.padding
  window := ⟨x.low, x.high, y.low, y.high⟩
  xScale := xScale
  yScale := yScale
  origin := (r.padding - x.low * xScale, r.padding - y.low * yScale)
  equalScale := r.yMax.isNone
  overscan := r.overscan

/-- The viewport for a request, and the axes whose ranges were corrected on the way. A correction is
reported even if the viewport fails later on. -/
def create (r : ViewportRequest α) : List Axis × Except (ViewportFault α) (Viewport α) :=
  match (checkFrame r.width r.height r.padding).bind fun _ => checkRange .x r.xMin r.xMax with
  | .error fault => ([], .error fault)
  | .ok x =>
    match scaleFor r.width r.padding x.low x.high with
    | .error fault => (correctionOf .x x, .error fault)
    | .ok xScale =>
      let (corrections, result) := ordinates r xScale
      (correctionOf .x x ++ corrections, result.map fun (y, yScale) => assemble r x y xScale yScale)

/-- What the same window, padding, overscan and kind of scale ask for in a frame of another size. -/
def requestFor (v : Viewport α) (width height : α) : ViewportRequest α where
  width := width
  height := height
  padding := v.padding
  xMin := v.window.xMin
  xMax := v.window.xMax
  yMin := v.window.yMin
  yMax := if v.equalScale then none else some v.window.yMax
  overscan := v.overscan

/-- The same window in a frame of another size. -/
def resized (v : Viewport α) (width height : α) :
    List Axis × Except (ViewportFault α) (Viewport α) :=
  create (v.requestFor width height)

/-- All that can be seen in the frame. -/
def extendedBounds (v : Viewport α) : Except ArithmeticFault (Bounds α) :=
  (quotient v.padding v.xScale).bind fun dx =>
    (quotient v.padding v.yScale).map fun dy => v.window.grown dx dy

/-- The extended bounds, moved outwards by a fraction of the window's extent. -/
def plotBoundsFor (v : Viewport α) (overscan : α) : Except ArithmeticFault (Bounds α) :=
  v.extendedBounds.map fun b =>
    b.grown (overscan * (v.window.xMax - v.window.xMin))
      (overscan * (v.window.yMax - v.window.yMin))

def plotBounds (v : Viewport α) : Except ArithmeticFault (Bounds α) := v.plotBoundsFor v.overscan

/-- The device row of an ordinate. -/
def deviceRow (v : Viewport α) (y : α) : α := v.height - (y * v.yScale + v.origin.2)

def toDevice (v : Viewport α) (p : Point α) : Point α :=
  (p.1 * v.xScale + v.origin.1, v.deviceRow p.2)

def toPlane (v : Viewport α) (p : Point α) : Except ArithmeticFault (Point α) :=
  (quotient (p.1 - v.origin.1) v.xScale).bind fun x =>
    (quotient (v.height - p.2 - v.origin.2) v.yScale).map fun y => (x, y)

/-- The size in pixels of a displacement in the plane. -/
def toDeviceLength (v : Viewport α) (dx dy : α) : α × α := (dx * v.xScale, dy * v.yScale)

end Viewport

end CurveBoard
