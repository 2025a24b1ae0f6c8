import CurveBoard.Shape.Primitive
import CurveBoard.Value.Basic

/-!
# The figure canvas

A canvas that holds one trace for every primitive: two lists of coordinates with properties. Round
shapes are outlined by forty-eight chords, and the polylines of one primitive are kept apart by
gaps. A trace that is drawn again keeps the properties that its new primitive does not set.
-/
namespace CurveBoard

/-- Coordinates of a trace, a gap being nothing. -/
abbrev Coordinates := List (Option Float)

/-- The outline of an ellipse. -/
def outline (center radii : Point Float) : List (Point Float) :=
  (List.range 49).map fun k =>
    let angle : Float := 2.0 * Geometry.pi * Float.ofNat k / 48.0
    (center.1 + radii.1 * angle.cos, center.2 + radii.2 * angle.sin)

/-- Lists with a gap before every one but the first. -/
def withGaps (paths : List (List Float)) : Coordinates :=
  ([none] : Coordinates).intercalate (paths.map fun path => path.map some)

/-- A path that returns to its start. -/
def closedPath (path : List (Point Float)) : List (Point Float) := path ++ path.take 1

namespace Primitive

/-- The polylines that a primitive's trace consists of. -/
def tracePaths (p : Primitive Float) : List (List (Point Float)) :=
  let center := p.center.getD (0.0, 0.0)
  match p.kind with
  | .circle | .ellipse => [outline center p.radii]
  | .rect =>
    let (x, y) := center
    let (width, height) := p.size
    [[(x, y), (x + width, y), (x + width, y + height), (x, y + height), (x, y)]]
  | .text => [[center]]
  | .polygon | .arrowhead => p.paths.map closedPath
  | .segmentPath => p.paths

/-- The coordinates of a primitive's trace. -/
def coordinates (p : Primitive Float) : Coordinates × Coordinates :=
  (withGaps (p.tracePaths.map (·.map Prod.fst)), withGaps (p.tracePaths.map (·.map Prod.snd)))

end Primitive

/-- A trace, or what is to be changed of one; properties may be unset. -/
structure Trace2D where
  name : String
  mode : String
  x : Coordinates
  y : Coordinates
  fill : Option String
  fillColor : Option String
  text : Option (List String)
  textPosition : Option String

namespace Trace2D

/-- The part of a text that is put at its point. -/
def textPositionFor (anchor : String) : String :=
  if anchor = "start" then "middle right"
  else if anchor = "end" then "middle left"
  else "middle center"

def ofPrimitive (color : String) (p : Primitive Float) : Trace2D :=
  let (x, y) := p.coordinates
  if p.kind = .text then
    ⟨p.id, "text", x, y, none, none, some [p.text], some (textPositionFor p.anchor)⟩
  else
    ⟨p.id, "lines", x, y, some (if p.filled then "toself" else "none"),
      if p.filled then some color else none, none, none⟩

/-- A trace after some of its properties have been set anew. -/
def updated (old new : Trace2D) : Trace2D where
  name := new.name
  mode := new.mode
  x := new.x
  y := new.y
  fill := new.fill.or old.fill
  fillColor := new.fillColor.or old.fillColor
  text := new.text.or old.text
  textPosition := new.textPosition.or old.textPosition

end Trace2D

/-- Traces in the order of drawing, each with the id it has been added for. A trace is looked for by
its id, and the first that has it is found. -/
structure Traces where
  entries : List (String × Trace2D)

namespace Traces

def empty : Traces := ⟨[]⟩

def find? (t : Traces) (id : String) : Option Trace2D :=
  (t.entries.find? fun entry => entry.1 == id).map Prod.snd

/-- Adds a trace behind all others. -/
def add (t : Traces) (id : String) (trace : Trace2D) : Traces := ⟨t.entries ++ [(id, trace)]⟩

/-- Puts a trace in the place of the one that is found. -/
def replace (t : Traces) (id : String) (trace : Trace2D) : Traces :=
  ⟨t.entries.set (t.entries.findIdx fun entry => entry.1 == id) (id, trace)⟩

/-- Removes all traces of an id. -/
def erase (t : Traces) (id : String) : Traces := ⟨t.entries.filter fun entry => entry.1 != id⟩

/-- The ids of the traces in order. -/
def ids (t : Traces) : List String := t.entries.map Prod.fst

end Traces

structure Figure where
  width : Number
  height : Number
  /-- Where the axes end. -/
  frame : Number × Number
  color : String
  traces : Traces

/-- A side that a figure cannot have. -/
structure RefusedSide where
  name : String
  kind : String
  shown : String
deriving DecidableEq, Repr

namespace RefusedSide

def message (r : RefusedSide) : String :=
  s!"\n    Invalid value of type '{r.kind}' received for the '{r.name}' property of layout\n"
    ++ s!"        Received value: {r.shown}\n\n"
    ++ s!"    The '{r.name}' property is a number and may be specified as:\n"
    ++ "      - An int or float in the interval [10, inf]"

end RefusedSide

/-- A side of a figure, which has at least ten pixels. -/
def Value.figureSide (name : String) (v : Value) : Except RefusedSide Number :=
  let refused : RefusedSide := ⟨name, v.qualifiedName, v.shown⟩
  match v.number? with
  | some n => if (Number.whole 10).isAtMost n then .ok n else .error refused
  | none => .error refused

namespace Figure

def blank : Figure := ⟨.whole 500, .whole 500, (.whole 500, .whole 500), "black", Traces.empty⟩

def upsert (f : Figure) (p : Primitive Float) : Figure :=
  let new := Trace2D.ofPrimitive f.color p
  match f.traces.find? p.id with
  | some old => { f with traces := f.traces.replace p.id (old.updated new) }
  | none => { f with traces := f.traces.add p.id new }

def delete (f : Figure) (id : String) : Figure := { f with traces := f.traces.erase id }

/-- Sets the sides, the width first, and then the ends of the axes. -/
def resize (f : Figure) (width height : Value) : Except RefusedSide Unit × Figure :=
  match width.figureSide "width" with
  | .error refused => (.error refused, f)
  | .ok width =>
    let f := { f with width := width }
    match height.figureSide "height" with
    | .error refused => (.error refused, f)
    | .ok height => (.ok (), { f with height := height, frame := (width, height) })

def traceIds (f : Figure) : List String := f.traces.ids

end Figure

end CurveBoard
