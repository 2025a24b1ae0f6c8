import CurveBoard.Board.Basic

/-!
# What boards do

An action works on a board and on the workspace, and leaves both as they are when it fails: what it
has changed before stays changed.
-/
namespace CurveBoard

structure Scene where
  board : Board
  workspace : Workspace

abbrev Action (α : Type) := ExceptT Fault (StateM Scene) α

/-- What a plot may change while it is built. -/
structure Stage where
  plots : Table Plot
  workspace : Workspace

namespace Action

/-- An outcome that changes nothing. -/
def ofExcept {α ε : Type} (fault : ε → Fault) (result : Except ε α) : Action α :=
  match result with
  | .ok a => pure a
  | .error e => throw (fault e)

/-- A use of the workspace. -/
def ofWorked {α : Type} (use : Worked α) : Action α := do
  let scene ← get
  let (result, workspace) := use scene.workspace
  set { scene with workspace := workspace }
  ofExcept id result

def board : Action Board := return (← get).board

def modifyBoard (f : Board → Board) : Action Unit :=
  modify fun scene => { scene with board := f scene.board }

def log (source : LogSource) (level : LogLevel) (message : String) : Action Unit :=
  modify fun scene => { scene with workspace := scene.workspace.log source level message }

end Action

/-- Builds a drawing of a board for a viewport. A plot keeps what its sampling yields. -/
def Drawing.build (context : PlotContext) :
    Builder Stage Drawing Fault Float := fun id drawing stage =>
  match drawing with
  | .shape _ s => ((s.primitives context.viewport id).mapError .shape, stage)
  | .plot =>
    match stage.plots.get? id with
    | none => (.error (.board (.missingKey (quoted id))), stage)
    | some p =>
      match p.build context id stage.workspace with
      | (.error fault, workspace) => (.error fault, { stage with workspace := workspace })
      | (.ok result, workspace) =>
        (.ok [Plot.primitive context id result],
          ⟨stage.plots.insert id { p with result := some result }, workspace⟩)

namespace Action

/-- Works on the desk; drawings are built for the board's viewport. -/
def onDesk (use : Builder Stage Drawing Fault Float → Desk Canvas Drawing Float → Stage →
    Except Fault Unit × Desk Canvas Drawing Float × Stage) : Action Unit := do
  let scene ← get
  let b := scene.board
  let (result, desk, stage) := use (Drawing.build b.context) b.desk ⟨b.plots, scene.workspace⟩
  set (Scene.mk { b with desk := desk, plots := stage.plots } stage.workspace)
  ofExcept id result

/-- The id that a caller gives, or the next one of its kind. -/
def drawingId (kind : String) (id : Option String) : Action String := do
  match id with
  | some id => return id
  | none =>
    let (id, b) := (← board).nextId kind
    modifyBoard fun _ => b
    return id

/-- Draws a shape, in the place of what had its id before. -/
def draw (kind : DrawingKind) (sketch : Sketch) (id : Option String) : Action String := do
  let sketch ← ofExcept .argument sketch.tupled
  let id ← drawingId kind.name id
  if (← board).plots.contains id then throw (.board (.usedByPlot id))
  let shape ← ofExcept .sketch sketch.shape
  onDesk fun build => Desk.upsert build id (.shape kind shape)
  return id

/-- Logs a rendering, not more than once a second at one level and twice at the other. -/
def logRendering (id : String) : Action Unit := do
  let b ← board
  let now := (← get).workspace.clock
  if 1.0 < now - b.lastInfo then
    modifyBoard fun b => { b with lastInfo := now }
    let result := (b.plots.get? id).bind Plot.result
    let mode := (result.map fun r => r.mode.name).getD "-"
    let count := (result.map fun r => r.polylines.length).getD 0
    log .board .info s!"board {b.id}: render plot={id} mode={mode} segments={count}"
  if 0.5 < now - b.lastDebug then
    modifyBoard fun b => { b with lastDebug := now }
    let window := b.viewport.window
    log .board .debug
      s!"board {b.id}: ranges x={rangeText window.xRange} y={rangeText window.yRange}"

/-- Samples a plot and draws it anew. -/
def render (id : String) : Action Unit := do
  onDesk fun build => Desk.upsert build id .plot
  if (← board).debug then logRendering id

def modifyPlot (id : String) (f : Plot → Plot) : Action Unit :=
  modifyBoard fun b =>
    match b.plots.get? id with
    | some plot => { b with plots := b.plots.insert id (f plot) }
    | none => b

/-- What a plot is given; what is absent stays as it is. -/
structure PlotChange where
  curve : Option Curve
  domain : Value
  points : Value
  config : Option SamplerConfig

def changeCurve (id : String) (given : Option Curve) : Action Unit :=
  match given with
  | some curve => modifyPlot id fun p => { p with curve := curve }
  | none => pure ()

def changeDomain (id : String) (given : Value) : Action Unit :=
  if given.isAbsent then pure ()
  else if isBoardDefault given then modifyPlot id fun p => { p with domain := none }
  else do
    let domain ← ofWorked (readDomain given)
    modifyPlot id fun p => { p with domain := some domain }

def changePoints (id : String) (given : Value) : Action Unit :=
  if given.isAbsent then pure ()
  else do
    let points ← ofWorked (readPoints given)
    modifyPlot id fun p => { p with points := points }

def changeConfig (id : String) (given : Option SamplerConfig) : Action Unit :=
  match given with
  | some config => modifyPlot id fun p => { p with config := some config }
  | none => pure ()

/-- Changes a plot, one setting after the other, and draws it anew. -/
def update (id : String) (change : PlotChange) : Action Unit := do
  if !(← board).plots.contains id then throw (.board (.missingKey (quoted id)))
  changeCurve id change.curve
  changeDomain id change.domain
  changePoints id change.points
  changeConfig id change.config
  render id

/-- Adds a plot and draws it. The plot is there even if it cannot be drawn. -/
def addPlot (id : String) (curve : Curve) (domain points : Value) (config : Option SamplerConfig) :
    Action Unit := do
  let domain ← ofWorked (readDomain? domain)
  let points ← ofWorked (readPoints points)
  modifyBoard fun b =>
    { b with plots := b.plots.insert id ⟨curve, domain, points, config, none⟩ }
  render id

/-- The id of a plot: the next free one, or one that no other drawing has. -/
def plotId (id : Option String) : Action String := do
  let b ← board
  match id with
  | none => drawingId "plot" none
  | some id =>
    match b.desk.entries.get? id with
    | some entry =>
      if b.plots.contains id then return id else throw (.board (.usedBy id entry.drawing.kindName))
    | none => return id

/-- Warns if nothing of a plot can be seen. -/
def warnIfDegenerate (id : String) (curve : Curve) : Action Unit := do
  let plot := (← board).plots.get? id
  if (plot.bind Plot.result).any SampledCurve.isDegenerate then
    let text := s!"plot {quoted id} ({curve.source.shown}) has no points inside the plot bounds; "
      ++ "check the domain and the board window"
    modify fun scene => { scene with workspace := scene.workspace.warn [.degenerate text] }

/-- Plots a curve, or changes the plot that has the id. -/
def plot (source domain points : Value) (id : Option String) (variableName : Value)
    (config : Option SamplerConfig) : Action String := do
  let curve ← ofWorked (Curve.resolve source variableName)
  let id ← plotId id
  if (← board).plots.contains id then update id ⟨some curve, domain, points, config⟩
  else addPlot id curve domain points config
  warnIfDegenerate id curve
  return id

/-- Takes a drawing off the board, be it a plot or a shape. -/
def delete (id : String) : Action Unit := do
  if !(← board).desk.entries.contains id then throw (.board (.unknownDrawing (quoted id)))
  modifyBoard fun b => { b with desk := b.desk.delete id, plots := b.plots.erase id }

def clear : Action Unit := modifyBoard Board.cleared

def readLength (given : Value) : Worked Float := fun w =>
  let (result, w) := convertReal given w
  (result.mapError .conversion, w)

def resizeCanvas (width height : Float) : Action Unit := do
  let (result, canvas) := (← board).desk.canvas.resize width height
  modifyBoard fun b => { b with desk := { b.desk with canvas := canvas } }
  ofExcept .side result

/-- Changes the size of the frame and draws everything anew. Without a height the ratio of the sides
stays. The size is changed even if a drawing cannot be drawn in it. -/
def resize (width height : Value) : Action Unit := do
  let width ← ofWorked (readLength width)
  let current := (← board).viewport
  let height ← ofWorked
    (readLength (height.orElse (.real (width * current.height / current.width))))
  let viewport ← ofWorked (Framing.ofViewport (current.resized width height)).report
  modifyBoard fun b => { b with viewport := viewport }
  resizeCanvas viewport.width viewport.height
  onDesk Desk.redraw
  let b ← board
  log .drawings .debug s!"redrew {b.desk.entries.size} drawing(s)"
  log .board .debug s!"board {b.id} resized to {sizeText width viewport.height}"

end Action

end CurveBoard
