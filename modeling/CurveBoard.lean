import CurveBoard.Algebra.Symbolic
import CurveBoard.Board.Collection
import CurveBoard.Board.Request
import CurveBoard.Board.Snapshot
import CurveBoard.Proofs.Board.Completeness
import CurveBoard.Proofs.Board.Inference
import CurveBoard.Proofs.Board.Numbering
import CurveBoard.Proofs.Board.Replay
import CurveBoard.Proofs.Board.Rounded
import CurveBoard.Proofs.Caching
import CurveBoard.Proofs.Canvas.Gaps
import CurveBoard.Proofs.Canvas.Order
import CurveBoard.Proofs.Canvas.PathData
import CurveBoard.Proofs.Canvas.Redrawing
import CurveBoard.Proofs.Canvas.Traces
import CurveBoard.Proofs.Conversion
import CurveBoard.Proofs.Desk
import CurveBoard.Proofs.Formula.Counterparts
import CurveBoard.Proofs.Formula.EndlessProducts
import CurveBoard.Proofs.Formula.Locations
import CurveBoard.Proofs.Formula.Pointwise
import CurveBoard.Proofs.Formula.Verbatim
import CurveBoard.Proofs.Sampling.Bounds
import CurveBoard.Proofs.Sampling.Domain
import CurveBoard.Proofs.Sampling.Exchange
import CurveBoard.Proofs.Sampling.Progress
import CurveBoard.Proofs.Sampling.Runs
import CurveBoard.Proofs.Shape.Clipping
import CurveBoard.Proofs.Shape.Labels
import CurveBoard.Proofs.Shape.Marks
import CurveBoard.Proofs.Shape.Spacings
import CurveBoard.Proofs.Viewport.Mapping
import CurveBoard.Proofs.Viewport.Resizing
import CurveBoard.Viewport.Given
import CurveBoard.Proofs.ExactGeometry
import CurveBoard.Proofs.Shape.Drawn
