import CurveBoard.Board.Basic

/-!
# Snapshots

What is needed to make a plot or a board again, and a summary of what it shows.
-/
namespace CurveBoard

structure PlotSnapshot where
  id : String
  source : Value
  rewritten : Value
  variableName : String
  mode : SamplingMode
  domain : Option (Float × Float)
  points : Option Int
  segmentCount : Nat
  pointCount : Nat

namespace PlotSnapshot

def ofPlot (id : String) (p : Plot) : PlotSnapshot where
  id := id
  source := p.curve.source
  rewritten := p.curve.rewritten
  variableName := p.curve.variableName
  mode := (p.result.map SampledCurve.mode).getD p.curve.mode
  domain := p.domain
  points := p.points
  segmentCount := (p.result.map fun r => r.polylines.length).getD 0
  pointCount := (p.result.map SampledCurve.pointCount).getD 0

def describe (s : PlotSnapshot) : String :=
  s!"PlotSnapshot(id={quoted s.id}, source={s.source.shown}, variable={quoted s.variableName}, "
    ++ s!"segments={s.segmentCount})"

end PlotSnapshot

structure DrawingSnapshot where
  id : String
  kind : String
  primitiveIds : List String

structure BoardSnapshot where
  id : String
  width : Float
  height : Float
  padding : Float
  xRange : Float × Float
  yRange : Float × Float
  equalScale : Bool
  plots : List PlotSnapshot
  drawings : List DrawingSnapshot

namespace BoardSnapshot

/-- What is on a board: its plots, and every other drawing. -/
def ofBoard (b : Board) : BoardSnapshot where
  id := b.id
  width := b.viewport.width
  height := b.viewport.height
  padding := b.viewport.padding
  xRange := b.viewport.window.xRange
  yRange := b.viewport.window.yRange
  equalScale := b.viewport.equalScale
  plots := b.plots.entries.map fun (id, plot) => PlotSnapshot.ofPlot id plot
  drawings := (b.desk.entries.entries.filter fun (_, entry) => !entry.drawing.isPlot).map
    fun (id, entry) => ⟨id, entry.drawing.kindName, entry.primitiveIds⟩

def describe (s : BoardSnapshot) : String :=
  s!"BoardSnapshot(id={quoted s.id}, size={sizeText s.width s.height}, "
    ++ s!"x_range={rangeText s.xRange}, y_range={rangeText s.yRange}, "
    ++ s!"plots={s.plots.length}, drawings={s.drawings.length})"

end BoardSnapshot

end CurveBoard
