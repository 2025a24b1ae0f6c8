import CurveBoard.Board.Fault
import CurveBoard.Table

/-!
# Plots

A plot is a curve with the settings it is sampled by and the outcome of the last sampling. What is
not set is taken from the board. A caller gives the curve as a number, as a formula, as a pair of
formulas in a parameter, or compiled; the domain as a pair whose ends may be formulas; and the count
of points likewise.
-/
namespace CurveBoard

structure Plot where
  curve : Curve
  domain : Option (Float × Float)
  points : Option Int
  config : Option SamplerConfig
  result : Option (SampledCurve Float)

/-- What a use of the workspace yields. -/
abbrev Worked (α : Type) := Workspace → Except Fault α × Workspace

namespace Curve

/-- The text of a curve, as it can be plotted again. -/
def source : Curve → Value
  | graph f => .text f.source
  | parametric p => .tuple [.text p.abscissa.source, .text p.ordinate.source]

/-- The text of a curve with all spelled out. -/
def rewritten : Curve → Value
  | graph f => .text f.formula.rewritten
  | parametric p => .tuple [.text p.abscissa.formula.rewritten, .text p.ordinate.formula.rewritten]

def variableName : Curve → String
  | graph f => f.variableName
  | parametric _ => "t"

end Curve

/-- Compiles a text in a variable, by way of the cache. -/
def compileEntry (source variableName : Value) : Worked CachedFormula := fun w =>
  match source, variableName with
  | .text s, .text name =>
    let (result, w) := w.compileIn s name
    (result.mapError .compile, w)
  | .text _, v => (.error (.compile (.variableKind v.typeName)), w)
  | v, _ => (.error (.compile (.sourceKind v.kindName)), w)

def compileText (source variableName : Value) : Worked CompiledFormula := fun w =>
  let (result, w) := compileEntry source variableName w
  (result.map CachedFormula.compiled, w)

/-- One coordinate of a curve in a parameter. A compiled one has to be in that parameter. -/
def compileComponent (source variableName : Value) : Worked CompiledFormula := fun w =>
  match source with
  | .formula f =>
    if !variableName.isText f.variableName && !f.isConstant then
      (.error (.plot (.componentVariable f.source f.variableName variableName.shown)), w)
    else (.ok f, w)
  | v => compileText v variableName w

def compileParametric (abscissa ordinate variableName : Value) : Worked ParametricFormula :=
  fun w =>
    match compileComponent abscissa variableName w with
    | (.error fault, w) => (.error fault, w)
    | (.ok x, w) =>
      match compileComponent ordinate variableName w with
      | (.error fault, w) => (.error fault, w)
      | (.ok y, w) => (.ok ⟨x, y⟩, w)

/-- The constant curve of a number, written without an exponent so that it can be read as a
formula. -/
def constantCurve (given : Value) (number : Number) (variableName : Value) :
    Worked Curve := fun w =>
  match number.toReal with
  | .error fault => (.error (.arithmetic fault), w)
  | .ok x =>
    if !x.isFinite then (.error (.plot (.endlessConstant given.shown)), w)
    else
      let (result, w) := compileText (.text (expandedText x)) variableName w
      (result.map .graph, w)

namespace Curve

/-- The curve that a caller means. Without a variable, the one that the formula uses is taken; what
counts as nothing is none. -/
def resolve (source givenName : Value) : Worked Curve := fun w =>
  let nameOr (default : String) : Value := givenName.orElseTrue (.text default)
  match source with
  | .formula f => (.ok (.graph f), w)
  | .curve p => (.ok (.parametric p), w)
  | .whole n => constantCurve source (.whole n) (nameOr "x") w
  | .real x => constantCurve source (.real x) (nameOr "x") w
  | .element x => constantCurve source (.real x) (nameOr "x") w
  | .text s =>
    let name : Except FormulaError Value :=
      if givenName.isTrue then .ok givenName
      else (Formula.inferVariable? s).map fun name => .text (name.getD "x")
    match name with
    | .error e => (.error (.compile (.malformed e)), w)
    | .ok name =>
      let (result, w) := compileText source name w
      (result.map .graph, w)
  | .tuple [abscissa, ordinate] =>
    let (result, w) := compileParametric abscissa ordinate (nameOr "t") w
    (result.map .parametric, w)
  | v => (.error (.plot (.unusableSource v.kindName)), w)

end Curve

/-- Whether a value asks for the board's setting. -/
def isBoardDefault : Value → Bool
  | .text s => s.toLower == "board"
  | _ => false

/-- The ends of a domain. -/
def readDomain (given : Value) : Worked (Float × Float) := fun w =>
  match given.items with
  | .ok [low, high] =>
    match convertReal low w with
    | (.error fault, w) => (.error (.conversion fault), w)
    | (.ok low, w) =>
      match convertReal high w with
      | (.error fault, w) => (.error (.conversion fault), w)
      | (.ok high, w) => (.ok (low, high), w)
  | _ => (.error (.plot (.domainNotAPair given.shown)), w)

/-- The domain of a new plot. -/
def readDomain? (given : Value) : Worked (Option (Float × Float)) := fun w =>
  if given.isAbsent then (.ok none, w)
  else
    let (result, w) := readDomain given w
    (result.map some, w)

/-- A count of points, or none if the board's is asked for. -/
def readPoints (given : Value) : Worked (Option Int) := fun w =>
  if given.isAbsent || isBoardDefault given then (.ok none, w)
  else match convertWhole given w with
    | (.error fault, w) => (.error (.conversion fault), w)
    | (.ok n, w) =>
      if n ≤ 0 then (.error (.plot (.pointsNotPositive given.shown)), w) else (.ok (some n), w)

/-- The count of coarse points to sample. -/
def targetPoints (given : Value) : Except Fault Nat :=
  match given.toWhole with
  | .error fault => .error (.argument fault)
  | .ok n => if n ≤ 0 then .error (.plot (.targetPointsNotPositive given.shown)) else .ok n.toNat

namespace SampledCurve

/-- How a sampling is logged. -/
def record (c : SampledCurve Float) : LogLevel × String :=
  match c.emptiness with
  | some reason => (.warning, s!"sampling ({c.mode.name}) produced no segments: {reason.text}")
  | none =>
    (.debug,
      s!"sampling ({c.mode.name}): {c.sampleCount} samples -> {c.polylines.length} segment(s)")

end SampledCurve

/-- What a plot takes from its board. -/
structure PlotContext where
  viewport : Viewport Float
  sampler : SamplerConfig
  samplingPoints : Option GivenNumber

namespace Plot

def describe (p : Plot) (id : String) : String :=
  s!"Plot(id={quoted id}, expression={p.curve.describe})"

def effectiveConfig (p : Plot) (context : PlotContext) : SamplerConfig :=
  p.config.getD context.sampler

/-- The count of points: the plot's own, the board's, or the sampler's. -/
def effectivePoints (p : Plot) (context : PlotContext) : Value :=
  (p.points.map Value.whole).getD
    ((context.samplingPoints.map GivenNumber.value).getD
      ((p.effectiveConfig context).defaultPoints p.curve.mode))

/-- Samples the plot's curve as its settings say. -/
def sampled (p : Plot) (context : PlotContext) (dice : Dice) : Except Fault (SampledCurve Float) :=
  (targetPoints (p.effectivePoints context)).bind fun points =>
    let run (settings : Settings Float) : Except ArgumentFault (SampledCurve Float) :=
      (p.curve.sample dice p.domain points context.viewport settings).mapError .arithmetic
    ((p.effectiveConfig context).sample p.curve.mode run).mapError .argument

/-- The primitive of a sampled curve: its polylines on the device. -/
def primitive (context : PlotContext) (id : String) (result : SampledCurve Float) :
    Primitive Float :=
  Primitive.polylines id (result.polylines.map fun polyline =>
    polyline.points.map fun p => roundedPoint (context.viewport.toDevice p))

/-- Samples the curve and logs what came out. -/
def build (p : Plot) (context : PlotContext) (id : String) : Worked (SampledCurve Float) := fun w =>
  let (dice, w) := w.takeDice
  match p.sampled context dice with
  | .error fault => (.error fault, w)
  | .ok result =>
    let (level, message) := result.record
    let w := w.log .sampler level message
    let w := w.log .plot .debug
      s!"plot {id}: {result.mode.name} sampling, {result.polylines.length} segment(s)"
    (.ok result, w)

end Plot

end CurveBoard
