import CurveBoard.Canvas.Markup
import CurveBoard.Shape.Primitive
import CurveBoard.Table
import CurveBoard.Value.Format

/-!
# The SVG canvas

A canvas that holds one SVG element for every primitive. The elements are the children of a
document, painted one after the other, behind its definitions; beside them a table tells which
element an id has. A primitive that is drawn again has a new element, in the place of the old one
among the children.
-/
namespace CurveBoard

/-- Numbers of path data have up to six significant digits. -/
def pathNumber (x : Float) : String := generalText 6 x

/-- Path data of points with their coordinates written: every polyline starts with a move, and
returns to its start if it is closed. -/
def writtenPathData (paths : List (List (Point String))) (closed : Bool) : String :=
  let polyline (path : List (Point String)) : String :=
    "M " ++ " ".intercalate (path.map fun (x, y) => x ++ "," ++ y) ++ (if closed then " Z" else "")
  " ".intercalate ((paths.filter (!·.isEmpty)).map polyline)

def pathData (paths : List (List (Point Float))) (closed : Bool) : String :=
  writtenPathData (paths.map fun path => path.map (Prod.map pathNumber pathNumber)) closed

namespace Value

/-- A point with its coordinates written for path data. -/
def pathPoint (v : Value) : Except FormatFault (Point String) :=
  (v.twoItems.mapError .argument).bind fun (x, y) => x.general.bind fun x =>
    y.general.map fun y => (x, y)

/-- The points of one polyline; what counts as nothing has none. -/
def pathPoints (v : Value) : Except FormatFault (List (Point String)) :=
  if v.isTrue then (v.items.mapError .argument).bind fun points => points.mapM pathPoint else .ok []

def pathData (v closed : Value) : Except FormatFault String :=
  ((v.items.mapError .argument).bind fun paths => paths.mapM pathPoints).map fun paths =>
    writtenPathData paths closed.isTrue

/-- The text that a value becomes as the value of an attribute. -/
def attributeText (v : Value) : String := if v.isAbsent then "" else v.plainText

end Value

/-- A child of a document. Two children may look alike, so each has a number of its own. -/
structure Node where
  serial : Nat
  element : Element

structure Image where
  width : String
  height : String
  stroke : String
  strokeWidth : String
  /-- The children of the document in the order of painting. -/
  children : List Node
  /-- The child that an id has. -/
  elements : Table Node
  nextSerial : Nat

namespace Image

/-- The element for a primitive, its attributes in alphabetical order. Numbers are written as they
were given. -/
def elementFor (i : Image) (p : Primitive Number) : Element :=
  let (x, y) := p.center.getD (.real 0.0, .real 0.0)
  let paths := (p.map Number.nearest).paths
  let fill := if p.filled then i.stroke else "none"
  let id := ("id", p.id)
  let stroke := [("stroke", i.stroke), ("stroke-width", i.strokeWidth)]
  match p.kind with
  | .segmentPath => ⟨"path", [("d", pathData paths false), ("fill", fill), id] ++ stroke, ""⟩
  | .polygon | .arrowhead =>
    ⟨"path", [("d", pathData paths true), ("fill", fill), id] ++ stroke, ""⟩
  | .circle =>
    ⟨"circle", [("cx", x.text), ("cy", y.text), ("fill", fill), id,
      ("r", p.radii.1.text)] ++ stroke, ""⟩
  | .ellipse =>
    ⟨"ellipse", [("cx", x.text), ("cy", y.text), ("fill", fill), id, ("rx", p.radii.1.text),
      ("ry", p.radii.2.text)] ++ stroke, ""⟩
  | .rect =>
    let corners :=
      if p.radii.1.isZero && p.radii.2.isZero then []
      else [("rx", p.radii.1.text), ("ry", p.radii.2.text)]
    ⟨"rect", [("fill", fill), ("height", p.size.2.text), id] ++ corners ++ stroke
      ++ [("width", p.size.1.text), ("x", x.text), ("y", y.text)], ""⟩
  | .text =>
    ⟨"text", [("fill", i.stroke), ("font-size", floatText 14.4), id, ("text-anchor", p.anchor),
      ("x", x.text), ("y", y.text)], p.text⟩

/-- A document with nothing but its definitions. -/
def blank (width height stroke strokeWidth : String) : Image where
  width := width
  height := height
  stroke := stroke
  strokeWidth := strokeWidth
  children := [⟨0, ⟨"defs", [], ""⟩⟩]
  elements := Table.empty
  nextSerial := 1

/-- Paints a primitive: in the place of the child that its id has, or behind all others. -/
def upsert (i : Image) (p : Primitive Number) : Image :=
  let new : Node := ⟨i.nextSerial, i.elementFor p⟩
  { i with
    children := match i.elements.get? p.id with
      | some old => i.children.set (i.children.findIdx (·.serial == old.serial)) new
      | none => i.children ++ [new]
    elements := i.elements.insert p.id new
    nextSerial := i.nextSerial + 1 }

def delete (i : Image) (id : String) : Image :=
  match i.elements.get? id with
  | some old =>
    { i with
      children := i.children.filter (·.serial != old.serial)
      elements := i.elements.erase id }
  | none => i

def resize (i : Image) (width height : String) : Image :=
  { i with width := width, height := height }

/-- The id that a child has been painted for, if it has one. -/
def idOf? (i : Image) (child : Node) : Option String :=
  (i.elements.entries.findRev? fun entry => entry.2.serial == child.serial).map Prod.fst

/-- The ids in the order of painting. -/
def elementIds (i : Image) : List String := i.children.filterMap i.idOf?

def root (i : Image) : Element :=
  ⟨"svg", [("baseProfile", "full"), ("height", i.height), ("version", "1.1"), ("width", i.width),
    ("xmlns", "http://www.w3.org/2000/svg"),
    ("xmlns:ev", "http://www.w3.org/2001/xml-events"),
    ("xmlns:xlink", "http://www.w3.org/1999/xlink")], ""⟩

def markup (i : Image) : String := i.root.write (String.join (i.children.map (·.element.write "")))

end Image

end CurveBoard
