import CurveBoard.Board.Desk
import CurveBoard.Board.Framing

/-!
# Boards

A board has a viewport, a desk with everything drawn on it, and the plots among the drawings.
Drawings without an id of their own get one that is made from their kind and a number.
-/
namespace CurveBoard

/-- The kinds of drawings beside plots. -/
inductive DrawingKind
  | line
  | segment
  | path
  | circle
  | ellipse
  | dot
  | polygon
  | rect
  | text
  | arrowhead
  | arc
  | angleArc
  | axes
deriving DecidableEq, Repr

namespace DrawingKind

def name : DrawingKind → String
  | line => "line"
  | segment => "segment"
  | path => "path"
  | circle => "circle"
  | ellipse => "ellipse"
  | dot => "dot"
  | polygon => "polygon"
  | rect => "rect"
  | text => "text"
  | arrowhead => "arrowhead"
  | arc => "arc"
  | angleArc => "angle-arc"
  | axes => "axes"

end DrawingKind

/-- What a desk remembers of a drawing. A plot is kept by the board under the same id. -/
inductive Drawing
  | shape (kind : DrawingKind) (shape : Shape Float)
  | plot

namespace Drawing

def kindName : Drawing → String
  | shape kind _ => kind.name
  | plot => "plot"

def isPlot : Drawing → Bool
  | shape _ _ => false
  | plot => true

end Drawing

structure Board where
  id : String
  options : BoardOptions
  sampler : SamplerConfig
  viewport : Viewport Float
  desk : Desk Canvas Drawing Float
  plots : Table Plot
  /-- The last number given to a drawing of each kind. -/
  counters : Table Nat
  debug : Bool
  /-- When a rendering was last logged, at either level. -/
  lastInfo : Float
  lastDebug : Float

/-- A size as messages show it. -/
def sizeText (width height : Float) : String := generalText 6 width ++ "x" ++ generalText 6 height

/-- A range as messages show it. -/
def rangeText (range : Float × Float) : String :=
  "(" ++ floatText range.1 ++ ", " ++ floatText range.2 ++ ")"

/-- Reads the ends of a window, one after the other. -/
def readWindow (window : PlotWindow) : Worked (Float × Float × Float × Option Float) := fun w =>
  let read (v : Value) (w : Workspace) : Except Fault Float × Workspace :=
    let (result, w) := convertReal v w
    (result.mapError .conversion, w)
  match read window.xMin w with
  | (.error fault, w) => (.error fault, w)
  | (.ok xMin, w) =>
    match read window.xMax w with
    | (.error fault, w) => (.error fault, w)
    | (.ok xMax, w) =>
      match read window.yMin w with
      | (.error fault, w) => (.error fault, w)
      | (.ok yMin, w) =>
        if window.yMax.isAbsent then (.ok (xMin, xMax, yMin, none), w)
        else
          let (result, w) := read window.yMax w
          (result.map fun yMax => (xMin, xMax, yMin, some yMax), w)

/-- The viewport that options ask for. -/
def viewportFor (options : BoardOptions) (sampler : SamplerConfig) :
    Worked (Viewport Float) := fun w =>
  match readWindow options.window w with
  | (.error fault, w) => (.error fault, w)
  | (.ok (xMin, xMax, yMin, yMax), w) =>
    let window : ViewportRequest Float := {
      width := options.width
      height := options.height
      padding := options.padding
      xMin := xMin
      xMax := xMax
      yMin := yMin
      yMax := yMax
      overscan := 0.25 }
    -- an integer may be too great for the overscan, which is noticed only if the window is sound
    (Framing.reading window (sampler.overscan.number.toReal.mapError .arithmetic) fun overscan =>
      Framing.ofRequest { window with overscan := overscan }).report w

namespace Board

/-- A new board without drawings. -/
def create (id : String) (options : BoardOptions) (sampler : SamplerConfig) (canvas : Canvas)
    (debug : Bool) : Worked Board := fun w =>
  match viewportFor options sampler w with
  | (.error fault, w) => (.error fault, w)
  | (.ok viewport, w) =>
    (.ok {
      id := id
      options := options
      sampler := sampler
      viewport := viewport
      desk := Desk.empty canvas
      plots := Table.empty
      counters := Table.empty
      debug := debug
      lastInfo := -Scalar.infinity
      lastDebug := -Scalar.infinity }, w)

/-- The board without its drawings. Numbers that have been given away are not given again. -/
def cleared (b : Board) : Board := { b with desk := b.desk.clear, plots := Table.empty }

def context (b : Board) : PlotContext := ⟨b.viewport, b.sampler, b.options.samplingPoints⟩

def describe (b : Board) : String :=
  s!"Board(id={quoted b.id}, size={sizeText b.viewport.width b.viewport.height}, "
    ++ s!"plots={b.plots.size})"

/-- The id of the `n`-th drawing of a kind. -/
def numberedId (kind : String) (n : Nat) : String := kind ++ "-" ++ toString n

/-- The first number after `last` that is free for a kind in a table of drawings. One of the next
numbers is, since there are more of them than drawings. -/
def firstFree {β : Type} (drawings : Table β) (kind : String) (last : Nat) : Nat :=
  let candidates := (List.range (drawings.size + 1)).map (last + 1 + ·)
  (candidates.find? fun n => !drawings.contains (numberedId kind n)).getD (last + 1)

def freeNumber (b : Board) (kind : String) (last : Nat) : Nat := firstFree b.desk.entries kind last

/-- The id for the next drawing of a kind, and the board that remembers having given it away. -/
def nextId (b : Board) (kind : String) : String × Board :=
  let n := b.freeNumber kind ((b.counters.get? kind).getD 0)
  (numberedId kind n, { b with counters := b.counters.insert kind n })

end Board

end CurveBoard
