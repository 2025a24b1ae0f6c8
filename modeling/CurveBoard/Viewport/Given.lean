import CurveBoard.Value.Signature
import CurveBoard.Viewport.Basic

/-!
# Rectangles and points as given

The ends of a rectangle and the coordinates of a point may be given as integers of any size or as
doubles, and are compared exactly. A comparison that is not needed is not made. A point of the
device is given in the same way.
-/
namespace CurveBoard

namespace Value

/-- Whether in every pair the first value is at most the second; pairs after one that is not are not
looked at. -/
def allAtMost : List (Value × Value) → Except ArgumentFault Bool
  | [] => .ok true
  | (v, v') :: rest =>
    match v.isAtMost v' with
    | .error fault => .error fault
    | .ok holds => if holds then allAtMost rest else .ok false

end Value

namespace Bounds

variable {α β : Type}

def signature : Signature := ⟨"Bounds.__init__", ["x_min", "x_max", "y_min", "y_max"], []⟩

def map (f : α → β) (b : Bounds α) : Bounds β := ⟨f b.xMin, f b.xMax, f b.yMin, f b.yMax⟩

def mapM {ε : Type} (f : α → Except ε β) (b : Bounds α) : Except ε (Bounds β) :=
  (f b.xMin).bind fun xMin => (f b.xMax).bind fun xMax =>
    (f b.yMin).bind fun yMin => (f b.yMax).map fun yMax => ⟨xMin, xMax, yMin, yMax⟩

def holds (b : Bounds Value) (x y : Value) : Except ArgumentFault Bool :=
  Value.allAtMost [(b.xMin, x), (x, b.xMax), (b.yMin, y), (y, b.yMax)]

def holdsBounds (b other : Bounds Value) : Except ArgumentFault Bool :=
  Value.allAtMost [(b.xMin, other.xMin), (other.xMax, b.xMax), (b.yMin, other.yMin),
    (other.yMax, b.yMax)]

/-- Moves every edge outwards. -/
def moved (b : Bounds Value) (dx dy : Value) : Except ArgumentFault (Bounds Value) :=
  (b.xMin.minus dx).bind fun xMin => (b.xMax.plus dx).bind fun xMax =>
    (b.yMin.minus dy).bind fun yMin => (b.yMax.plus dy).map fun yMax => ⟨xMin, xMax, yMin, yMax⟩

end Bounds

namespace Viewport

/-- The point of the plane that a point of the device shows. -/
def toPlaneFrom (v : Viewport Float) (x y : Value) : Except ArgumentFault (Point Float) :=
  let part (offset : Except ArgumentFault Value) (scale : Float) : Except ArgumentFault Float :=
    (offset.bind Value.toReal).bind fun offset =>
      (Scalar.quotient offset scale).mapError .arithmetic
  (part (x.minus (.real v.origin.1)) v.xScale).bind fun x =>
    (part (((Value.real v.height).minus y).bind fun y => y.minus (.real v.origin.2))
      v.yScale).map fun y => (x, y)

end Viewport

end CurveBoard
