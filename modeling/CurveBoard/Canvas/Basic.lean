import CurveBoard.Canvas.Image
import CurveBoard.Canvas.Figure
import CurveBoard.Canvas.Store

/-!
# Canvases

A board draws on one of three canvases. All of them take primitives and give them up by id; the
plain one has no size.
-/
namespace CurveBoard

inductive Canvas
  | store (s : Store Float)
  | image (i : Image)
  | figure (f : Figure)

namespace Canvas

def upsert (canvas : Canvas) (p : Primitive Float) : Canvas :=
  match canvas with
  | store s => store (s.upsert p)
  | image i => image (i.upsert (p.map .real))
  | figure f => figure (f.upsert p)

def delete (canvas : Canvas) (id : String) : Canvas :=
  match canvas with
  | store s => store (s.delete id)
  | image i => image (i.delete id)
  | figure f => figure (f.delete id)

def resize (canvas : Canvas) (width height : Float) : Except RefusedSide Unit × Canvas :=
  match canvas with
  | store s => (.ok (), store s)
  | image i => (.ok (), image (i.resize (floatText width) (floatText height)))
  | figure f => (f.resize (.real width) (.real height)).map id figure

/-- The ids of what is drawn, in order. -/
def ids : Canvas → List String
  | store s => s.primitives.keys
  | image i => i.elementIds
  | figure f => f.traceIds

end Canvas

end CurveBoard
