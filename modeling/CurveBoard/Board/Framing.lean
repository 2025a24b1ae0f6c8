import CurveBoard.Board.Plot

/-!
# Viewports from named values

A viewport may be asked for by named values of any kind, like the settings of a board. Values are
read in the order in which the viewport needs them: the frame, the abscissas, the ordinates, the
overscan. A value that cannot be read is noticed only if everything before it is sound; so the
values that are still to be read are stood in for by the unit square, which fits into every frame.
-/
namespace CurveBoard

/-- A viewport, or why there is none, and the axes whose ranges were corrected on the way. -/
abbrev Framing := List Axis × Except Fault (Viewport Float)

namespace Framing

def ofViewport (made : List Axis × Except (ViewportFault Float) (Viewport Float)) : Framing :=
  (made.1, made.2.mapError .viewport)

def ofRequest (r : ViewportRequest Float) : Framing := ofViewport (Viewport.create r)

/-- Reads a value. If that fails, a fault in what was read before it comes first. -/
def reading {β : Type} (r : ViewportRequest Float) (value : Except ArgumentFault β)
    (next : β → Framing) : Framing :=
  match value with
  | .ok value => next value
  | .error fault =>
    let (axes, result) := ofRequest r
    (axes, result.bind fun _ => .error (.argument fault))

/-- A request for the unit square in a frame. -/
def unitSquare (width height padding : Float) : ViewportRequest Float where
  width := width
  height := height
  padding := padding
  xMin := 0.0
  xMax := 1.0
  yMin := 0.0
  yMax := some 1.0
  overscan := 0.25

def readPair (v v' : Value) : Except ArgumentFault (Float × Float) :=
  v.toReal.bind fun x => v'.toReal.map fun y => (x, y)

def readFrame (fields : Fields) : Except ArgumentFault (Float × Float × Float) :=
  (readPair (fields.get "width" .absent) (fields.get "height" .absent)).bind fun (width, height) =>
    (fields.get "padding" (.whole 20)).toReal.map fun padding => (width, height, padding)

/-- The ordinates of a window; without an upper end both axes have the same scale. -/
def readOrdinates (fields : Fields) : Except ArgumentFault (Float × Option Float) :=
  let low := fields.get "y_min" .absent
  match (fields.get "y_max" .absent).present? with
  | none => low.toReal.map fun low => (low, none)
  | some high => (readPair low high).map fun (low, high) => (low, some high)

def signature : Signature :=
  ⟨"CoordinateSystem.create", ["width", "height", "x_min", "x_max", "y_min"], ["y_max",
    "padding", "overscan"]⟩

/-- The viewport that named values ask for. -/
def ofFields (fields : Fields) : Framing :=
  match (signature.check fields).bind fun _ => readFrame fields with
  | .error fault => ([], .error (.argument fault))
  | .ok (width, height, padding) =>
    let square := unitSquare width height padding
    let abscissas := readPair (fields.get "x_min" .absent) (fields.get "x_max" .absent)
    reading square abscissas fun (xMin, xMax) =>
      let strip := { square with xMin := xMin, xMax := xMax }
      reading strip (readOrdinates fields) fun (yMin, yMax) =>
        let window := { strip with yMin := yMin, yMax := yMax }
        reading window (fields.get "overscan" (.real 0.25)).toReal fun overscan =>
          ofRequest { window with overscan := overscan }

/-- The same window in a frame of another size. -/
def resizeSignature : Signature := ⟨"CoordinateSystem.resized", ["width", "height"], []⟩

def resized (v : Viewport Float) (width height : Value) : Framing :=
  match readPair width height with
  | .error fault => ([], .error (.argument fault))
  | .ok (width, height) => ofViewport (v.resized width height)

/-- The viewport, after the corrected ranges have been reported as warnings. -/
def report (framing : Framing) : Worked (Viewport Float) := fun w =>
  (framing.2, w.warn (framing.1.map (.corrected ∘ correctionText)))

end Framing

end CurveBoard
