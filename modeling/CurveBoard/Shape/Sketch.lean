import CurveBoard.Shape.Basic
import CurveBoard.Value.Basic

/-!
# Sketches

A shape as a caller describes it, with values of any kind. A sketch becomes a shape once every value
has been found to be of use; what is absent has its default.
-/
namespace CurveBoard

inductive Sketch
  | arrowhead (tail tip : Value)
  | line (p q toExtremities : Value)
  | segment (p q marker : Value)
  | path (points closed : Value)
  | polygon (points : Value)
  | ellipse (center rx ry : Value)
  | rect (p q rx ry : Value)
  | text (p content position : Value)
  | dot (center type label position : Value)
  | arc (start stop radius marker : Value)
  | angleArc (vertex radius start stop : Value)
  | axes (dx dy labels gridX gridY ordinates xName yName : Value)

/-- Why a sketch is no shape. -/
inductive SketchFault
  | notAPair (role shown : String)
  | endlessPoint (role shown : String)
  | unknownMarker (role shown : String)
  | unknownPosition (shown : String)
  | unknownDotType (shown : String)
  | argument (fault : ArgumentFault)
  | shape (fault : ShapeFault Float)

namespace SketchFault

def message : SketchFault → String
  | notAPair role shown => s!"{role} must be an (x, y) pair, got {shown}"
  | endlessPoint role shown => s!"{role} must be finite, got {shown}"
  | unknownMarker role shown =>
    s!"Unknown {role} marker {shown}; expected one of " ++ nameList (Marker.all.map Marker.name)
  | unknownPosition shown =>
    s!"Unknown text position {shown}; expected one of " ++
      nameList (TextPosition.all.map TextPosition.name)
  | unknownDotType shown =>
    s!"Unknown dot type {shown}; expected one of " ++ nameList (DotType.all.map DotType.name)
  | argument fault => fault.message
  | shape fault => fault.message

/-- What is wrong with a point if one of its coordinates cannot be had. A coordinate that is too
large, or that is missing from a record, is reported as such. -/
def ofCoordinate (role shown : String) : ArgumentFault → SketchFault
  | .missingItem index => argument (.missingItem index)
  | .arithmetic fault => argument (.arithmetic fault)
  | _ => notAPair role shown

end SketchFault

namespace Value

def pointIn (role : String) (v : Value) : Except SketchFault (Point Float) :=
  let coordinate (index : Nat) : Except SketchFault Float :=
    ((v.item index).bind Value.toReal).mapError (.ofCoordinate role v.shown)
  (coordinate 0).bind fun x => (coordinate 1).bind fun y =>
    if isFinitePoint (x, y) then .ok (x, y) else .error (.endlessPoint role v.shown)

def points (v : Value) : Except SketchFault (List (Point Float)) :=
  (v.items.mapError .argument).bind fun items => items.mapM (pointIn "point")

def measure (v : Value) : Except SketchFault Float := v.toReal.mapError .argument

def markerIn (role : String) (v : Value) : Except SketchFault Marker :=
  (v.soughtText.mapError .argument).bind fun name =>
    (name.bind Marker.ofName?).elim (.error (.unknownMarker role v.shown)) .ok

def textPosition (v : Value) : Except SketchFault (Option TextPosition) :=
  if v.isAbsent then .ok none
  else
    (v.soughtText.mapError .argument).bind fun name =>
      (name.bind TextPosition.ofName?).elim (.error (.unknownPosition v.shown)) (.ok ∘ some)

def dotType (v : Value) : Except SketchFault DotType :=
  (v.soughtText.mapError .argument).bind fun name =>
    (name.bind DotType.ofName?).elim (.error (.unknownDotType v.shown)) .ok

/-- A radius that is going to be scaled; nothing, and whatever counts as nothing, is zero. A complex
number can be scaled, but is no radius. -/
def scalable (v : Value) : Except SketchFault (Option (CornerRadius Float)) :=
  if !v.isTrue then .ok (some ⟨0.0, false⟩)
  else match v, v.number? with
    | complex _ _, _ => .ok none
    | element x, _ => .ok (some ⟨x, true⟩)
    | _, some n => (n.toReal.map fun x => some ⟨x, false⟩).mapError (.argument ∘ .arithmetic)
    | v, none => .error (.argument (.notScalable v.kindName))

/-- A value, or another one in the place of a value that counts as nothing. -/
def orElseTrue (v other : Value) : Value := if v.isTrue then v else other

/-- A value, or another one if there is none. -/
def orElse (v other : Value) : Value := if v.isAbsent then other else v

end Value

namespace Sketch

/-- A radius that has been scaled is rounded, which a complex number is not. -/
def roundable (radius : Option (CornerRadius Float)) : Except SketchFault (CornerRadius Float) :=
  radius.elim (.error (.argument (.notRoundable (Value.complex 0.0 0.0).kindName))) .ok

def early {β : Type} (check : Drawn Float β) : Except SketchFault β := check.mapError .shape

def axesStyle (dx dy labels gridX gridY ordinates xName yName : Value) :
    Except SketchFault (AxesStyle Float) := do
  let stepX ← (dx.orElse (.real 1.0)).measure
  let stepY ← (dy.orElse (.real stepX)).measure
  early (checkTickSpacing stepX stepY)
  let grid ←
    if gridX.isAbsent && gridY.isAbsent then pure none
    else do
      let spaceX ← (gridX.orElseTrue (.real stepX)).measure
      let spaceY ← (gridY.orElseTrue (gridX.orElseTrue (.real stepY))).measure
      pure (some (spaceX, spaceY))
  return {
    dx := stepX
    dy := stepY
    grid := grid
    labels := labels.isTrue
    ordinates := ordinates.isTrue
    xName := xName.plainText
    yName := yName.plainText }

/-- The shape that a sketch describes. Where a sketch has several faults, a measure that is not
positive is noticed before the values that come after it. -/
def shape : Sketch → Except SketchFault (Shape Float)
  | arrowhead tail tip => do return .arrowhead (← tail.pointIn "point") (← tip.pointIn "point")
  | line p q toExtremities =>
    do return .line (← p.pointIn "p") (← q.pointIn "q") toExtremities.isTrue
  | segment p q marker => do
    let marker ← (marker.orElseTrue (.text Marker.none.name)).markerIn "segment"
    return .segment (← p.pointIn "p") (← q.pointIn "q") marker
  | path points closed => do return .path (← points.points) closed.isTrue
  | polygon points => do return .polygon (← points.points)
  | ellipse center rx ry => do
    let rx ← rx.measure
    let ry ← ry.measure
    early (checkRadii rx ry)
    return .ellipse (← center.pointIn "center") rx ry
  | rect p q rx ry => do
    let p ← p.pointIn "p"
    let q ← q.pointIn "q"
    let radiusX ← rx.scalable
    let radiusY ← (ry.orElse rx).scalable
    return .rect p q (← roundable radiusX) (← roundable radiusY)
  | text p content position => do
    let position ← position.textPosition
    return .text (← p.pointIn "point") content.plainText position
  | dot center type label position => do
    let type ← type.dotType
    let center ← center.pointIn "center"
    let label ←
      if label.isTrue then do pure (some (label.plainText, ← position.textPosition))
        else pure none
    return .dot center type label
  | arc start stop radius marker => do
    let marker ← marker.markerIn "arc"
    let start ← start.pointIn "start"
    let stop ← stop.pointIn "end"
    early (checkArcEnds start stop)
    let radius ← radius.present?.mapM Value.measure
    return .arc start stop radius marker
  | angleArc vertex radius start stop => do
    let radius ← radius.measure
    early (checkRadius radius)
    return .angleArc (← vertex.pointIn "vertex") radius (← start.measure) (← stop.measure)
  | axes dx dy labels gridX gridY ordinates xName yName =>
    (axesStyle dx dy labels gridX gridY ordinates xName yName).map .axes

/-- A point as a tuple. -/
def tuple (v : Value) : Except ArgumentFault Value := v.items.map .tuple

/-- Points as a tuple of tuples. -/
def tuples (v : Value) : Except ArgumentFault Value :=
  v.items.bind fun items => (items.mapM tuple).map .tuple

/-- Writes the points of a sketch as tuples. -/
def tupled : Sketch → Except ArgumentFault Sketch
  | arrowhead tail tip => do return .arrowhead (← tuple tail) (← tuple tip)
  | line p q toExtremities => do return .line (← tuple p) (← tuple q) toExtremities
  | segment p q marker => do return .segment (← tuple p) (← tuple q) marker
  | path points closed => do return .path (← tuples points) closed
  | polygon points => do return .polygon (← tuples points)
  | ellipse center rx ry => do return .ellipse (← tuple center) rx ry
  | rect p q rx ry => do return .rect (← tuple p) (← tuple q) rx ry
  | text p content position => do return .text (← tuple p) content position
  | dot center type label position => do return .dot (← tuple center) type label position
  | arc start stop radius marker => do return .arc (← tuple start) (← tuple stop) radius marker
  | angleArc vertex radius start stop => do return .angleArc (← tuple vertex) radius start stop
  | axes dx dy labels gridX gridY ordinates xName yName =>
    return .axes dx dy labels gridX gridY ordinates xName yName

end Sketch

end CurveBoard
