import CurveBoard.Sampling.Walk
import CurveBoard.Viewport.Basic

/-!
# Sampling curves

A curve is sampled in one of three modes: as the graph of a function of the abscissa, as the graph
of a function of the ordinate, or in a parameter. The first and the last take fine steps, the second
coarse ones. Functions are given by what they do to lists of arguments; nothing else of them is
used.

The fine grid leaves out zero, where many formulas have a removable singularity: the last point
below it moves close to zero, and so does the first one above.
-/
namespace CurveBoard

open Scalar

inductive SamplingMode
  | explicit
  | inverse
  | parametric
deriving DecidableEq, Repr

namespace SamplingMode

def name : SamplingMode → String
  | explicit => "explicit"
  | inverse => "inverse"
  | parametric => "parametric"

end SamplingMode

/-- Why a curve has no polyline. -/
inductive Emptiness (α : Type)
  | emptyDomain (low high : α)
  | nothingInside
deriving Repr

namespace Emptiness

def text : Emptiness Float → String
  | emptyDomain low high => s!"empty domain ({floatText low}, {floatText high})"
  | nothingInside => "no points inside the plot bounds; check the domain and the board window"

end Emptiness

/-- A sampled curve: its polylines in the order of traversal, or the reason why it has none. -/
structure SampledCurve (α : Type) where
  mode : SamplingMode
  polylines : List (Polyline α)
  emptiness : Option (Emptiness α)
  sampleCount : Nat

namespace SampledCurve

variable {α : Type}

def isDegenerate (c : SampledCurve α) : Bool := c.polylines.isEmpty

def pointCount (c : SampledCurve α) : Nat := c.polylines.foldl (fun count p => count + p.size) 0

def ofPolylines (mode : SamplingMode) (sampleCount : Nat) (polylines : List (Polyline α)) :
    SampledCurve α :=
  ⟨mode, polylines, if polylines.isEmpty then some .nothingInside else none, sampleCount⟩

def ofEmptyDomain (mode : SamplingMode) (low high : α) : SampledCurve α :=
  ⟨mode, [], some (.emptyDomain low high), 0⟩

end SampledCurve

variable {α : Type} [Scalar α]

/-- A count as a divisor. -/
def countAsScalar (n : Nat) : Except ArithmeticFault α :=
  let x : α := ofNat n
  if isFinite x then .ok x else .error .integerTooLarge

/-- Whether there is anything between two ends. -/
def isProperDomain (low high : α) : Bool := isFinite low && isFinite high && !decide (high ≤ low)

/-- Moves the two points beside zero close to it, and zero itself. -/
def avoidZero (step t : α) : α :=
  if t < 0.0 && 0.0 < t + step then -1e-12
  else if (t - step < 0.0 && 0.0 < t) || t == 0.0 then 1e-10
  else t

/-- The points from `low` to below `high` at distance `step`, without zero. -/
def fineGrid (low high step : α) : Except ArithmeticFault (List α) :=
  (quotient (high - low) step).bind fun ratio =>
    (toInteger ceil ratio).map fun count =>
      let points := (List.range count.toNat).map fun k => low + step * ofNat k
      (points.filter (· < high)).map (avoidZero step)

/-- The length of a fine step. The steps together fall just short of the domain. -/
def fineStep (settings : Settings α) (points : Nat) (low high : α) : Except ArithmeticFault α :=
  (countAsScalar points).bind fun count =>
    quotient (0.999999 * (high - low) / count) settings.microSteps

/-- Ordinates at the points of a grid and one step to either side, as samples. -/
def samplesOf (v : Viewport α) (step : α) (xs ys before after : List α) : List (Sample α) :=
  let rows := (ys.zip (before.zip after)).map fun (y, b, a) =>
    let row := v.deviceRow y
    (y, (v.deviceRow b - row) / step, (row - v.deviceRow a) / step)
  (xs.zip rows).map fun (x, y, slopeBefore, slopeAfter) => ⟨x, y, slopeBefore, slopeAfter⟩

/-- The open range of ordinates where points are accepted. -/
def ordinateLimits (v : Viewport α) (settings : Settings α) : Except ArithmeticFault (α × α) :=
  if settings.drawBeyondY then (v.plotBoundsFor settings.overscan).map Bounds.yRange
  else v.extendedBounds.map Bounds.yRange

/-- The part of a requested domain that lies between two bounds. -/
def clippedDomain (bounds domain : α × α) : α × α :=
  (larger bounds.1 domain.1, smaller bounds.2 domain.2)

/-- The abscissas to sample: the window's, or the requested ones as far as they can be seen. -/
def explicitDomain (v : Viewport α) (settings : Settings α) (domain : Option (α × α)) :
    Except ArithmeticFault (α × α) :=
  match domain with
  | none => .ok v.window.xRange
  | some domain =>
    if settings.drawBeyondX then .ok domain
    else v.extendedBounds.map fun b => clippedDomain b.xRange domain

/-- Samples the graph of a function of the abscissa. -/
def sampleExplicit (f : List α → List α) (domain : Option (α × α)) (points : Nat)
    (v : Viewport α) (settings : Settings α) : Except ArithmeticFault (SampledCurve α) := do
  let (low, high) ← explicitDomain v settings domain
  if !isProperDomain low high then return .ofEmptyDomain .explicit low high
  let step ← fineStep settings points low high
  let ts ← fineGrid low high step
  let samples := samplesOf v step ts (f ts) (f (ts.map (· - step))) (f (ts.map (· + step)))
  let y ← ordinateLimits v settings
  return .ofPolylines .explicit ts.length (walk settings ⟨(-infinity, infinity), y⟩ samples)

/-- Samples the graph of a function of the ordinate, both ends of the domain included. -/
def sampleInverse (f : List α → List α) (domain : Option (α × α)) (points : Nat)
    (v : Viewport α) (settings : Settings α) : Except ArithmeticFault (SampledCurve α) := do
  let plot ← v.plotBoundsFor settings.overscan
  let (low, high) := match domain with
    | none => v.window.yRange
    | some domain => clippedDomain plot.yRange domain
  if !isProperDomain low high then return .ofEmptyDomain .inverse low high
  let count ← countAsScalar points
  let step := (high - low) * (1.0 - 1e-6) / count
  let ys := ((List.range (points + 1)).map fun k => low + step * ofNat k).filter (· ≤ high)
  return .ofPolylines .inverse ys.length
    (walkInverse plot.xRange settings.infinityEpsilon ((f ys).zip ys))

/-- Samples a curve in a parameter. The domain is never clipped, since the parameter is no
coordinate. -/
def sampleParametric (abscissa ordinate : List α → List α) (domain : Option (α × α))
    (points : Nat) (v : Viewport α) (settings : Settings α) :
    Except ArithmeticFault (SampledCurve α) := do
  let (low, high) := domain.getD v.window.xRange
  if !isProperDomain low high then return .ofEmptyDomain .parametric low high
  let step ← fineStep settings points low high
  let ts ← fineGrid low high step
  let samples := samplesOf v step (abscissa ts) (ordinate ts) (ordinate (ts.map (· - step)))
    (ordinate (ts.map (· + step)))
  let plot ← v.plotBoundsFor settings.overscan
  let y ← ordinateLimits v settings
  return .ofPolylines .parametric ts.length (walk settings ⟨plot.xRange, y⟩ samples)

end CurveBoard
