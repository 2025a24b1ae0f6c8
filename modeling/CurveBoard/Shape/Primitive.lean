import CurveBoard.Scalar
import CurveBoard.Text.Quoted

/-!
# Primitives

What a canvas draws: polylines, closed outlines, circles, ellipses, rectangles and texts, in device
coordinates. All numbers of a primitive that comes from a shape are multiples of a hundredth.
-/
namespace CurveBoard

open Scalar

inductive PrimitiveKind
  | segmentPath
  | circle
  | ellipse
  | polygon
  | rect
  | text
  | arrowhead
deriving DecidableEq, Repr

namespace PrimitiveKind

def name : PrimitiveKind → String
  | segmentPath => "segment-path"
  | circle => "circle"
  | ellipse => "ellipse"
  | polygon => "polygon"
  | rect => "rect"
  | text => "text"
  | arrowhead => "arrowhead"

/-- All kinds, by name. -/
def all : List PrimitiveKind := [arrowhead, circle, ellipse, polygon, rect, segmentPath, text]

def ofName? (name : String) : Option PrimitiveKind := all.find? fun kind => kind.name == name

end PrimitiveKind

/-- A list of names as messages show it. -/
def nameList (names : List String) : String := "[" ++ ", ".intercalate (names.map quoted) ++ "]"

/-- A kind of primitive that does not exist, as it was given. -/
structure UnknownKind where
  shown : String
deriving DecidableEq, Repr

namespace UnknownKind

def message (e : UnknownKind) : String :=
  s!"Unknown primitive kind {e.shown}; expected one of " ++
    nameList (PrimitiveKind.all.map PrimitiveKind.name)

end UnknownKind

/-- One thing to draw. Which fields matter depends on the kind: the paths of a polyline, polygon or
arrowhead; the center of a circle, an ellipse or a text, and for a rectangle its upper left corner;
the radii of an ellipse, or of a rectangle's corners. -/
structure Primitive (α : Type) where
  id : String
  kind : PrimitiveKind
  paths : List (List (Point α))
  center : Option (Point α)
  radii : α × α
  size : α × α
  text : String
  /-- Where the center is along a text: `start`, `middle` or `end`. -/
  anchor : String
  filled : Bool
deriving Repr

namespace Primitive

variable {α β ε : Type}

/-- A primitive with other numbers. -/
def map (f : α → β) (p : Primitive α) : Primitive β where
  id := p.id
  kind := p.kind
  paths := p.paths.map (·.map (Prod.map f f))
  center := p.center.map (Prod.map f f)
  radii := Prod.map f f p.radii
  size := Prod.map f f p.size
  text := p.text
  anchor := p.anchor
  filled := p.filled

/-- A primitive with other numbers, if there is one for each. -/
def mapM (f : α → Except ε β) (p : Primitive α) : Except ε (Primitive β) :=
  let both (q : Point α) : Except ε (Point β) :=
    (f q.1).bind fun x => (f q.2).map fun y => (x, y)
  (p.paths.mapM fun (path : List (Point α)) => path.mapM both).bind fun paths =>
    (p.center.mapM both).bind fun center => (both p.radii).bind fun radii =>
      (both p.size).map fun size =>
      ⟨p.id, p.kind, paths, center, radii, size, p.text, p.anchor, p.filled⟩

end Primitive

variable {α : Type} [Scalar α]

def roundedPoint (p : Point α) : Point α := (hundredths p.1, hundredths p.2)

namespace Primitive

/-- A primitive without any measures. -/
def blank (id : String) (kind : PrimitiveKind) : Primitive α where
  id := id
  kind := kind
  paths := []
  center := none
  radii := (0.0, 0.0)
  size := (0.0, 0.0)
  text := ""
  anchor := "middle"
  filled := false

def polylines (id : String) (paths : List (List (Point α))) : Primitive α :=
  { blank id .segmentPath with paths := paths }

/-- A circle for a point, of a fixed size. -/
def disc (id : String) (center : Point α) (filled : Bool) : Primitive α :=
  { blank id .circle with center := some center, radii := (4.0, 4.0), filled := filled }

end Primitive

end CurveBoard
