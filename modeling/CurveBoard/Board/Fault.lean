import CurveBoard.Board.Settings
import CurveBoard.Canvas.Figure
import CurveBoard.Formula.Symbolic
import CurveBoard.Shape.Given
import CurveBoard.Value.Array
import CurveBoard.Value.Conversion

/-!
# Faults

Everything that an operation on a board may refuse, with its wording and its kind. A name that is
missing from a table is reported in quotes.
-/
namespace CurveBoard

/-- Why a curve cannot be plotted. -/
inductive PlotFault
  | domainNotAPair (shown : String)
  | pointsNotPositive (shown : String)
  | targetPointsNotPositive (shown : String)
  | endlessConstant (shown : String)
  | unusableSource (kind : String)
  | componentVariable (source variableName shown : String)
deriving DecidableEq, Repr

namespace PlotFault

def message : PlotFault → String
  | domainNotAPair shown => s!"domain must be a (min, max) pair, got {shown}"
  | pointsNotPositive shown => s!"sampling_points must be positive, got {shown}"
  | targetPointsNotPositive shown => s!"target_points must be positive, got {shown}"
  | endlessConstant shown => s!"plot() needs a finite constant, got {shown}"
  | unusableSource kind =>
    "plot() expects a number, an expression string, a compiled expression or "
      ++ s!"an (x, y) pair of strings, got {kind}"
  | componentVariable source variableName shown =>
    s!"Parametric component {quoted source} uses {quoted variableName}, expected {shown}"

end PlotFault

/-- Why a board does not do what it is asked to. -/
inductive BoardFault
  | usedByPlot (id : String)
  | usedBy (id kind : String)
  | unknownDrawing (shown : String)
  | missingKey (shown : String)
  | unknownBoard (shown : String)
  | unregisteredBoard (id : String)
  | notABoard (shown : String)
deriving DecidableEq, Repr

namespace BoardFault

def message : BoardFault → String
  | usedByPlot id => s!"id {quoted id} is already used by a plot"
  | usedBy id kind => s!"id {quoted id} is already used by a {kind}"
  | unknownDrawing shown => quoted s!"Unknown drawing id: {shown}"
  | missingKey shown => shown
  | unknownBoard shown => quoted s!"Board ID does not exist: {shown}"
  | unregisteredBoard id => quoted s!"Board {quoted id} is not registered here"
  | notABoard shown => s!"Invalid Board or Board ID: {shown}"

end BoardFault

inductive Fault
  | compile (fault : CompileFault)
  | viewport (fault : ViewportFault Float)
  | settings (fault : SettingsFault)
  | argument (fault : ArgumentFault)
  | conversion (fault : ConversionFault)
  | sketch (fault : SketchFault)
  | shape (fault : ShapeFault Float)
  | arithmetic (fault : ArithmeticFault)
  | polyline (fault : PolylineFault)
  | plot (fault : PlotFault)
  | board (fault : BoardFault)
  | symbolic (fault : SymbolicFault)
  | shapes (mismatch : ShapeMismatch)
  | array (fault : ArrayFault)
  | primitive (fault : PrimitiveFault)
  | format (fault : FormatFault)
  | side (refused : RefusedSide)

/-- The kinds of faults that callers tell apart. -/
inductive FaultKind
  | malformedFormula
  | misconfiguration
  | unsuitableValue
  | unsuitableKind
  | noSuchOperation
  | missingKey
  | outOfRange
  | unsupported
  | divisionByZero
  | overflow
deriving DecidableEq, Repr

namespace ArithmeticFault

def kind : ArithmeticFault → FaultKind
  | divisionByZero => .divisionByZero
  | integerOfInfinity => .overflow
  | integerTooLarge => .overflow
  | integerOfNaN => .unsuitableValue
  | outsideDomain => .unsuitableValue

end ArithmeticFault

namespace ArgumentFault

def kind : ArgumentFault → FaultKind
  | notRealText _ => .unsuitableValue
  | notWholeText _ => .unsuitableValue
  | indexOutOfRange _ => .outOfRange
  | scalarIndex => .outOfRange
  | tooFewItems _ => .unsuitableValue
  | tooManyItems => .unsuitableValue
  | missingItem _ => .missingKey
  | arithmetic fault => fault.kind
  | _ => .unsuitableKind

end ArgumentFault

namespace FormatFault

def kind : FormatFault → FaultKind
  | noFormat _ => .unsuitableKind
  | argument fault => fault.kind
  | _ => .unsuitableValue

end FormatFault

namespace PrimitiveFault

def kind : PrimitiveFault → FaultKind
  | unknownKind _ => .unsuitableValue
  | argument fault => fault.kind

end PrimitiveFault

namespace ArrayFault

def kind : ArrayFault → FaultKind
  | uneven _ => .unsuitableValue
  | entry fault => fault.kind

end ArrayFault

namespace ViewportFault

def kind : ViewportFault Float → FaultKind
  | arithmetic fault => fault.kind
  | _ => .misconfiguration

end ViewportFault

namespace ShapeFault

def kind : ShapeFault Float → FaultKind
  | arithmetic fault => fault.kind
  | _ => .misconfiguration

end ShapeFault

namespace SketchFault

def kind : SketchFault → FaultKind
  | argument fault => fault.kind
  | shape fault => fault.kind
  | _ => .misconfiguration

end SketchFault

namespace SettingsFault

def kind : SettingsFault → FaultKind
  | argument fault => fault.kind
  | _ => .misconfiguration

end SettingsFault

namespace ConversionFault

def kind : ConversionFault → FaultKind
  | unsupportedKind _ => .unsupported
  | arithmetic fault => fault.kind
  | _ => .unsuitableValue

end ConversionFault

namespace SymbolicFault

def kind : SymbolicFault → FaultKind
  | gammaPole => .unsuitableValue
  | _ => .unsupported

end SymbolicFault

namespace CompileFault

def kind : CompileFault → FaultKind
  | malformed _ => .malformedFormula
  | variableName _ => .unsuitableValue
  | variableKind _ => .noSuchOperation
  | sourceKind _ => .unsuitableKind

end CompileFault

namespace PlotFault

def kind : PlotFault → FaultKind
  | pointsNotPositive _ => .misconfiguration
  | targetPointsNotPositive _ => .misconfiguration
  | unusableSource _ => .unsuitableKind
  | _ => .unsuitableValue

end PlotFault

namespace BoardFault

def kind : BoardFault → FaultKind
  | usedByPlot _ => .misconfiguration
  | usedBy _ _ => .misconfiguration
  | notABoard _ => .unsuitableKind
  | _ => .missingKey

end BoardFault

namespace Fault

def kind : Fault → FaultKind
  | compile fault => fault.kind
  | viewport fault => fault.kind
  | settings fault => fault.kind
  | argument fault => fault.kind
  | conversion fault => fault.kind
  | sketch fault => fault.kind
  | shape fault => fault.kind
  | arithmetic fault => fault.kind
  | polyline _ => .unsuitableValue
  | plot fault => fault.kind
  | board fault => fault.kind
  | symbolic fault => fault.kind
  | shapes _ => .unsuitableValue
  | array fault => fault.kind
  | primitive fault => fault.kind
  | format fault => fault.kind
  | side _ => .unsuitableValue

def message : Fault → String
  | compile fault => fault.message
  | viewport fault => fault.message
  | settings fault => fault.message
  | argument fault => fault.message
  | conversion fault => fault.message
  | sketch fault => fault.message
  | shape fault => fault.message
  | arithmetic fault => fault.message
  | polyline fault => fault.message
  | plot fault => fault.message
  | board fault => fault.message
  | symbolic fault => fault.message
  | shapes mismatch => mismatch.message
  | array fault => fault.message
  | primitive fault => fault.message
  | format fault => fault.message
  | side refused => refused.message

/-- The formula at fault, if it is a formula. -/
def formula? : Fault → Option FormulaError
  | compile (.malformed e) => some e
  | _ => none

end Fault

end CurveBoard
