import CurveBoard.Shape.Label

/-!
# Arrowheads and end markers

An arrowhead is a slim triangle on the device with its apex at the tip, pointing away from the tail.
The ends of segments and arcs may be marked by arrowheads and by open or filled discs.
-/
namespace CurveBoard

open Scalar

inductive Marker
  | none
  | arrow
  | dot
  | dotdot
  | dotarrow
  | arrowdot
deriving DecidableEq, Repr

namespace Marker

def name : Marker → String
  | none => "none"
  | arrow => "arrow"
  | dot => "dot"
  | dotdot => "dotdot"
  | dotarrow => "dotarrow"
  | arrowdot => "arrowdot"

/-- All markers, by name. -/
def all : List Marker := [arrow, arrowdot, dot, dotarrow, dotdot, none]

def ofName? (name : String) : Option Marker := all.find? fun marker => marker.name == name

end Marker

variable {α : Type} [Geometry α]

def device (v : Viewport α) (p : Point α) : Point α := roundedPoint (v.toDevice p)

def devicePath (v : Viewport α) (points : List (Point α)) : List (Point α) :=
  points.map (device v)

def samePoint (p q : Point α) : Bool := p.1 == q.1 && p.2 == q.2

def distance (p q : Point α) : α := Geometry.hypotenuse (q.1 - p.1) (q.2 - p.2)

/-- The triangle of an arrowhead that points in a direction, seven pixels wide and twelve high. -/
def arrowTriangleAlong (tip direction : Point α) : Drawn α (List (Point α)) :=
  let length := Geometry.hypotenuse direction.1 direction.2
  if length == 0.0 then .error .arrowOfOnePoint
  else
    let ux := direction.1 / length
    let uy := direction.2 / length
    let base := (tip.1 - ux * 12.0, tip.2 - uy * 12.0)
    let nx := -uy * 7.0 / 2.0
    let ny := ux * 7.0 / 2.0
    .ok [roundedPoint tip, roundedPoint (base.1 + nx, base.2 + ny),
      roundedPoint (base.1 - nx, base.2 - ny)]

/-- The triangle of an arrowhead from a tail to a tip. -/
def arrowTriangle (tail tip : Point α) : Drawn α (List (Point α)) :=
  arrowTriangleAlong tip (tip.1 - tail.1, tip.2 - tail.2)

/-- An arrowhead between two points of the device. -/
def arrowPrimitive (id : String) (tail tip : Point α) : Drawn α (Primitive α) :=
  (arrowTriangle tail tip).map fun triangle =>
    { Primitive.blank id .arrowhead with paths := [triangle], filled := true }

/-- An arrowhead between two points of the plane. -/
def arrowShape (v : Viewport α) (id : String) (tail tip : Point α) : Drawn α (Primitive α) :=
  (placed tail).bind fun tail => (placed tip).bind fun tip =>
    arrowPrimitive id (v.toDevice tail) (v.toDevice tip)

end CurveBoard
