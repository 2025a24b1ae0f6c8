import CurveBoard.Board.Action

/-!
# Requests by named values

A drawing of some kind is asked for by named values, most of which need not be given. What is not
given is absent, unless the kind of drawing has a default for it. Plots, changes of the frame and
canvases are asked for in the same way.
-/
namespace CurveBoard

namespace DrawingKind

def all : List DrawingKind :=
  [line, segment, path, circle, ellipse, dot, polygon, rect, text, arrowhead, arc, angleArc, axes]

def ofName? (name : String) : Option DrawingKind := all.find? fun kind => kind.name == name

/-- The names that a drawing of some kind must be given, and those that it may be given beside its
id. -/
def fieldNames : DrawingKind → List String × List String
  | line => (["p", "q"], ["to_extremities"])
  | segment => (["p", "q"], ["marker"])
  | path => (["points"], ["closed"])
  | circle => (["center", "radius"], [])
  | ellipse => (["center", "rx", "ry"], [])
  | dot => (["center"], ["type", "label", "position"])
  | polygon => (["points"], [])
  | rect => (["p", "q"], ["rx", "ry"])
  | text => (["p", "text"], ["position"])
  | arrowhead => (["p", "q"], [])
  | arc => (["start", "end"], ["radius", "marker"])
  | angleArc => (["vertex", "radius", "start_angle", "end_angle"], [])
  | axes => ([], ["dx", "dy", "labels", "grid_dx", "grid_dy", "show_y_axis", "x_name", "y_name"])

/-- The name of a kind as a word. -/
def word (kind : DrawingKind) : String := kind.name.replace "-" "_"

/-- What building a shape is given. -/
def builder (kind : DrawingKind) : Signature :=
  ⟨"build_" ++ kind.word, kind.fieldNames.1, kind.fieldNames.2⟩

/-- What drawing on a board is given. -/
def method (kind : DrawingKind) : Signature :=
  ⟨"Board." ++ kind.word, kind.fieldNames.1, "id" :: kind.fieldNames.2⟩

end DrawingKind

namespace Sketch

/-- The sketch of a drawing of some kind. A circle is an ellipse with two equal radii. -/
def ofFields (kind : DrawingKind) (fields : Fields) : Sketch :=
  let given (name : String) : Value := fields.get name .absent
  let marker := fields.get "marker" (.text Marker.none.name)
  match kind with
  | .line => line (given "p") (given "q") (fields.get "to_extremities" (.truth false))
  | .segment => segment (given "p") (given "q") marker
  | .path => path (given "points") (fields.get "closed" (.truth false))
  | .circle => ellipse (given "center") (given "radius") (given "radius")
  | .ellipse => ellipse (given "center") (given "rx") (given "ry")
  | .dot =>
    dot (given "center") (fields.get "type" (.text DotType.closed.name)) (given "label")
      (fields.get "position" (.text (TextPosition.vertical .below).name))
  | .polygon => polygon (given "points")
  | .rect => rect (given "p") (given "q") (given "rx") (given "ry")
  | .text => text (given "p") (given "text") (given "position")
  | .arrowhead => arrowhead (given "p") (given "q")
  | .arc => arc (given "start") (given "end") (given "radius") marker
  | .angleArc =>
    angleArc (given "vertex") (given "radius") (given "start_angle") (given "end_angle")
  | .axes =>
    axes (given "dx") (given "dy") (fields.get "labels" (.truth true)) (given "grid_dx")
      (given "grid_dy") (fields.get "show_y_axis" (.truth true)) (fields.get "x_name" (.text "x"))
      (fields.get "y_name" (.text "y"))

/-- The shape that named values describe. -/
def built (kind : DrawingKind) (fields : Fields) : Except Fault (Shape Float) :=
  match kind.builder.check fields with
  | .error fault => .error (.argument fault)
  | .ok _ => (ofFields kind fields).shape.mapError .sketch

end Sketch

namespace Fields

/-- The text under a name, if it is one. -/
def text? (given : Fields) (name : String) : Option String :=
  match given.get name .absent with
  | .text s => some s
  | _ => none

def text (given : Fields) (name default : String) : String := (given.text? name).getD default

end Fields

/-- The id that a value is. What is no text is no id of anything, so that there is a fault to
report. -/
def Value.idOr (fault : String → BoardFault) (v : Value) : Except Fault String :=
  match v.soughtText with
  | .error e => .error (.argument e)
  | .ok (some id) => .ok id
  | .ok none => .error (.board (fault v.shown))

/-- A compiled curve. -/
def Value.curve? : Value → Option Curve
  | .formula f => some (.graph f)
  | .curve p => some (.parametric p)
  | _ => none

namespace SamplerConfig

/-- The configuration that a record asks for. -/
def ofValue? : Value → Except Fault (Option SamplerConfig)
  | .record fields => ((ofFields fields).mapError .settings).map some
  | _ => .ok none

end SamplerConfig

namespace Action

/-- A drawing as named values ask for it. -/
def drawFields (kind : DrawingKind) (given : Fields) : Action String := do
  ofExcept .argument (kind.method.check given)
  draw kind (Sketch.ofFields kind given) (given.text? "id")

def plotSignature : Signature :=
  ⟨"Board.plot", ["source"], ["domain", "points", "id", "variable", "config"]⟩

/-- A plot as named values ask for it. -/
def plotFields (given : Fields) : Action String := do
  let config ← ofExcept (fun fault => fault) (SamplerConfig.ofValue? (given.get "config" .absent))
  ofExcept .argument (plotSignature.check given)
  plot (given.get "source" .absent) (given.get "domain" .absent) (given.get "points" .absent)
    (given.text? "id") (given.get "variable" .absent) config

def updateSignature : Signature :=
  ⟨"Plot.update", [], ["expression", "domain", "sampling_points", "config"]⟩

/-- Changes a plot as named values ask for it. -/
def updateFields (id : String) (given : Fields) : Action Unit := do
  if !(← board).plots.contains id then throw (.board (.missingKey (quoted id)))
  let config ← ofExcept (fun fault => fault) (SamplerConfig.ofValue? (given.get "config" .absent))
  ofExcept .argument (updateSignature.check given)
  update id ⟨(given.get "expression" .absent).curve?, given.get "domain" .absent,
    given.get "sampling_points" .absent, config⟩

def resizeSignature : Signature := ⟨"Board.resize", ["width"], ["height"]⟩

/-- Changes the size of the frame as named values ask for it. -/
def resizeFields (given : Fields) : Action Unit := do
  ofExcept .argument (resizeSignature.check given)
  resize (given.get "width" .absent) (given.get "height" .absent)

end Action

def Image.signature : Signature :=
  ⟨"SvgRenderer.__init__", [], ["width", "height", "stroke", "stroke_width"]⟩

def Figure.signature : Signature :=
  ⟨"PlotlyRenderer.__init__", [], ["width", "height", "color", "figure"]⟩

def Image.resizeSignature : Signature := ⟨"SvgRenderer.resize", ["width", "height"], []⟩

def Figure.resizeSignature : Signature := ⟨"PlotlyRenderer.resize", ["width", "height"], []⟩

/-- The image that named values ask for. -/
def Image.requested (given : Fields) : Except Fault Image :=
  let written (name : String) (default : Value) : String := (given.get name default).attributeText
  match signature.check given with
  | .error fault => .error (.argument fault)
  | .ok _ =>
    .ok (blank (written "width" (.whole 500)) (written "height" (.whole 500))
      (written "stroke" (.text "black")) (written "stroke_width" (.real 1.5)))

/-- The figure that named values ask for. -/
def Figure.requested (given : Fields) : Except Fault Figure :=
  match signature.check given with
  | .error fault => .error (.argument fault)
  | .ok _ =>
    let f := { blank with color := given.text "color" blank.color }
    match f.resize (given.get "width" (.whole 500)) (given.get "height" (.whole 500)) with
    | (.error refused, _) => .error (.side refused)
    | (.ok _, f) => .ok f

inductive CanvasKind
  | plain
  | image
  | figure
deriving DecidableEq, Repr

namespace Canvas

/-- The canvas of some kind that named values ask for; the plain one has no settings. -/
def requested (kind : CanvasKind) (given : Fields) : Except Fault Canvas :=
  match kind with
  | .plain => .ok (.store Store.empty)
  | .image => (Image.requested given).map .image
  | .figure => (Figure.requested given).map .figure

end Canvas

end CurveBoard
