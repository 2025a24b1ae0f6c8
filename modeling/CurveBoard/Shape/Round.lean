import CurveBoard.Shape.Arrow

/-!
# Ellipses, rectangles, dots and arcs

Circles become ellipses on the device where the axes have different scales. Arcs are drawn as
polylines of chords of five degrees at most.
-/
namespace CurveBoard

open Scalar

variable {α : Type} [Geometry α]

inductive DotType
  | closed
  | opened
  | plus
  | minus
  | bar
deriving DecidableEq, Repr

namespace DotType

def name : DotType → String
  | closed => "closed"
  | opened => "open"
  | plus => "+"
  | minus => "-"
  | bar => "|"

/-- All types, by name. -/
def all : List DotType := [plus, minus, closed, opened, bar]

def ofName? (name : String) : Option DotType := all.find? fun type => type.name == name

end DotType

def checkRadii (rx ry : α) : Drawn α Unit :=
  if 0.0 < rx && 0.0 < ry then .ok () else .error (.radiiNotPositive rx ry)

def ellipseShape (v : Viewport α) (id : String) (center : Point α) (rx ry : α) :
    Drawn α (List (Primitive α)) :=
  (checkRadii rx ry).map fun _ =>
    let (dx, dy) := v.toDeviceLength rx ry
    [{ Primitive.blank id (if nearlyEqual dx dy then .circle else .ellipse) with
      center := some (device v center)
      radii := (hundredths dx, hundredths dy) }]

/-- How far a rectangle's corners are rounded along one axis. A length from an array is cut to
hundredths as arrays do it. -/
structure CornerRadius (α : Type) where
  length : α
  fromArray : Bool
deriving Repr

/-- A radius on the device. -/
def CornerRadius.device (r : CornerRadius α) (x : α) : α :=
  if r.fromArray then arrayHundredths x else hundredths x

/-- The rectangle with two opposite corners, its own corners rounded by the given radii. -/
def rectShape (v : Viewport α) (id : String) (p q : Point α) (rx ry : CornerRadius α) :
    List (Primitive α) :=
  let (left, right) := if q.1 < p.1 then (q.1, p.1) else (p.1, q.1)
  let (bottom, top) := if q.2 < p.2 then (q.2, p.2) else (p.2, q.2)
  let (width, height) := v.toDeviceLength (right - left) (top - bottom)
  let (cornerX, cornerY) := v.toDeviceLength rx.length ry.length
  [{ Primitive.blank id .rect with
    center := some (device v (left, top))
    size := (hundredths width, hundredths height)
    radii := (rx.device cornerX, ry.device cornerY) }]

/-- A mark at a point: a disc, or strokes of eight pixels through it. -/
def dotMark (v : Viewport α) (id : String) (center : Point α) (type : DotType) : Primitive α :=
  let (x, y) := v.toDevice center
  let horizontal := [roundedPoint (x - 4.0, y), roundedPoint (x + 4.0, y)]
  let vertical := [roundedPoint (x, y - 4.0), roundedPoint (x, y + 4.0)]
  match type with
  | .closed => Primitive.disc id (roundedPoint (x, y)) true
  | .opened => Primitive.disc id (roundedPoint (x, y)) false
  | .plus => Primitive.polylines id [horizontal, vertical]
  | .minus => Primitive.polylines id [horizontal]
  | .bar => Primitive.polylines id [vertical]

/-- A mark with a label beside it. -/
def dotShape (v : Viewport α) (id : String) (center : Point α) (type : DotType)
    (label : Option (String × Option TextPosition)) : Drawn α (List (Primitive α)) :=
  match label with
  | none => .ok [dotMark v id center type]
  | some (content, position) =>
    (textPrimitive v (id ++ "-label") center content position).map fun text =>
      [dotMark v id center type, text]

/-- How many chords an angle needs. -/
def chordCount (sweep : α) : Except ArithmeticFault Nat :=
  (toInteger ceil (absolute (Geometry.degrees sweep) / 5.0)).map fun count => max 8 count.toNat

/-- Angles at equal distances, both ends included. -/
def angles (start stop : α) (count : Nat) : List α :=
  let step := (stop - start) / ofNat count
  ((List.range count).map fun k => ofNat k * step + start) ++ [stop]

/-- The center of an arc, counter-clockwise, and the angles of its ends. -/
def arcFrame (start stop : Point α) (radius chord : α) :
    Except ArithmeticFault (Point α × α × α) := do
  let chordX := stop.1 - start.1
  let chordY := stop.2 - start.2
  let half := chord / 2.0
  let offset := Geometry.sqrt (larger (radius * radius - half * half) 0.0)
  let middle := (start.1 + chordX / 2.0, start.2 + chordY / 2.0)
  let sine ← quotient chordY chord
  let cosine ← quotient chordX chord
  let center := (middle.1 - sine * offset, middle.2 + cosine * offset)
  let startAngle := Geometry.arctan2 (start.2 - center.2) (start.1 - center.1)
  let stopAngle := Geometry.arctan2 (stop.2 - center.2) (stop.1 - center.1)
  return (center, startAngle, if stopAngle ≤ startAngle then stopAngle + 2.0 * Geometry.pi
    else stopAngle)

/-- The points of an arc; its ends are exactly the given ones. -/
def arcPoints (start stop center : Point α) (radius startAngle stopAngle : α) (count : Nat) :
    List (Point α) :=
  let inner := (((angles startAngle stopAngle count).drop 1).take (count - 1)).map fun a =>
    (center.1 + radius * Geometry.cos a, center.2 + radius * Geometry.sin a)
  start :: (inner ++ [stop])

def checkArcEnds (start stop : Point α) : Drawn α Unit :=
  if samePoint start stop then .error .arcOfOnePoint else .ok ()

/-- The smaller arc from one point to another, counter-clockwise. The radius is the distance of the
points unless given, and at least half of it. -/
def arcShape (v : Viewport α) (id : String) (start stop : Point α) (radius : Option α)
    (marker : Marker) : Drawn α (List (Primitive α)) := do
  checkArcEnds start stop
  let chord := distance start stop
  let radius := larger ((radius.map absolute).getD chord) (chord / 2.0)
  let (center, startAngle, stopAngle) ← calculated (arcFrame start stop radius chord)
  let count ← calculated (chordCount (stopAngle - startAngle))
  let points := arcPoints start stop center radius startAngle stopAngle count
  let discs :=
    if marker == .dot || marker == .dotdot || marker == .dotarrow || marker == .arrowdot then
      [Primitive.disc (id ++ "-start") (device v start) false,
        Primitive.disc (id ++ "-end") (device v stop) true]
    else []
  let arrows ←
    if marker == .arrow || marker == .arrowdot || marker == .dotarrow then
      let tail := (points.dropLast.getLast?).getD start
      (arrowPrimitive (id ++ "-ah") (v.toDevice tail) (v.toDevice stop)).map ([·])
    else pure []
  return Primitive.polylines id [devicePath v points] :: (discs ++ arrows)

def checkRadius (radius : α) : Drawn α Unit :=
  if 0.0 < radius then .ok () else .error (.radiusNotPositive radius)

/-- A sector at a vertex: its radius is in pixels, its angles are in degrees. -/
def angleArcShape (v : Viewport α) (id : String) (vertex : Point α) (radius start stop : α) :
    Drawn α (List (Primitive α)) := do
  checkRadius radius
  let (x, y) := v.toDevice vertex
  let startAngle := Geometry.radians start
  let stopAngle := Geometry.radians stop
  let count ← calculated (chordCount (stopAngle - startAngle))
  let ring := (angles startAngle stopAngle count).map fun a =>
    roundedPoint (x + radius * Geometry.cos a, y - radius * Geometry.sin a)
  return [{ Primitive.blank id .polygon with paths := [ring ++ [roundedPoint (x, y)]] }]

end CurveBoard
