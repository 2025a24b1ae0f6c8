import CurveBoard.Shape.Sketch
import CurveBoard.Shape.Ticks
import CurveBoard.Value.Format
import CurveBoard.Value.Signature

/-!
# Ticks, arrowheads and primitives as given

Steps, labels, triangles and primitives that a caller asks for with values of any kind.
-/
namespace CurveBoard

namespace Value

/-- How many decimals the multiples of a step are written with. An integer beyond all doubles needs
none. -/
def tickDecimals (step : Value) : Except ArgumentFault Nat :=
  match step.number? with
  | none => .error (.mustBeReal step.typeName)
  | some n =>
    match n.toReal with
    | .ok x => (CurveBoard.tickDecimals x).mapError .arithmetic
    | .error _ => if n.isAbove 0 then .ok 0 else .error (.arithmetic .outsideDomain)

/-- The label of a tick, with as many decimals as a value says before those that are idle are left
out. -/
def tickText (v decimals : Value) : Except FormatFault String := (v.fixed decimals).map tickLabel

/-- The difference of two parts of values. -/
def partMinus (v v' : Value) (index : Nat) : Except ArgumentFault Value :=
  (v.item index).bind fun part => (v'.item index).bind part.minus

/-- The triangle of an arrowhead from a tail to a tip. -/
def arrowTriangle (tail tip : Value) : Except SketchFault (List (Point Float)) := do
  let dx ← (tip.partMinus tail 0).mapError .argument
  let dy ← (tip.partMinus tail 1).mapError .argument
  let direction := (← dx.measure, ← dy.measure)
  let apex ← tip.firstTwo.mapError .argument
  (arrowTriangleAlong apex direction).mapError .shape

/-- Two numbers. -/
def numberPair (v : Value) : Except ArgumentFault (Point Number) :=
  let number (v : Value) : Except ArgumentFault Number :=
    v.number?.elim (.error (.mustBeReal v.typeName)) .ok
  v.twoItems.bind fun (x, y) => (number x).bind fun x => (number y).map fun y => (x, y)

/-- Polylines of points of two numbers. -/
def numberPaths (v : Value) : Except ArgumentFault (List (List (Point Number))) :=
  v.items.bind fun paths => paths.mapM fun path => path.items.bind fun points =>
    points.mapM numberPair

end Value

/-- Why given values make no primitive. -/
inductive PrimitiveFault
  | unknownKind (kind : UnknownKind)
  | argument (fault : ArgumentFault)

namespace PrimitiveFault

def message : PrimitiveFault → String
  | unknownKind kind => kind.message
  | argument fault => fault.message

end PrimitiveFault

namespace Value

/-- The kind of primitive that a value names. -/
def primitiveKind (v : Value) : Except PrimitiveFault PrimitiveKind :=
  match v.soughtText with
  | .error fault => .error (.argument fault)
  | .ok name => (name.bind PrimitiveKind.ofName?).elim (.error (.unknownKind ⟨v.shown⟩)) .ok

end Value

namespace Primitive

def signature : Signature :=
  ⟨"Primitive.__init__", ["id", "kind"], ["paths", "center", "radii", "size", "text",
    "anchor", "filled"]⟩

/-- The primitive that named values describe. -/
def ofFields (given : Fields) : Except PrimitiveFault (Primitive Number) := do
  (signature.check given).mapError .argument
  let kind ← (given.get "kind" .absent).primitiveKind
  let zero : Value := .tuple [.real 0.0, .real 0.0]
  return {
    id := (given.get "id" .absent).plainText
    kind := kind
    paths := ← (given.get "paths" (.tuple [])).numberPaths.mapError .argument
    center := ← ((given.get "center" .absent).present?.mapM Value.numberPair).mapError .argument
    radii := ← (given.get "radii" zero).numberPair.mapError .argument
    size := ← (given.get "size" zero).numberPair.mapError .argument
    text := (given.get "text" (.text "")).plainText
    anchor := (given.get "anchor" (.text "middle")).plainText
    filled := (given.get "filled" (.truth false)).isTrue }

/-- A primitive with doubles for its numbers. -/
def toReal (p : Primitive Number) : Except ArithmeticFault (Primitive Float) := p.mapM Number.toReal

end Primitive

end CurveBoard
