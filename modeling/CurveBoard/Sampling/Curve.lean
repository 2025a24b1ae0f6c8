import CurveBoard.Formula.Compiled
import CurveBoard.Sampling.Modes
import CurveBoard.Value.Basic

/-!
# Curves

A curve is a formula in the abscissa, a formula in the ordinate, or a pair of formulas in a
parameter, which decides the mode of sampling. A mode may also be asked for; it has to fit the curve
once there is something to sample.
-/
namespace CurveBoard

inductive Curve
  | graph (f : CompiledFormula)
  | parametric (p : ParametricFormula)

namespace Curve

def mode : Curve → SamplingMode
  | graph f => if f.variableName = "y" then .inverse else .explicit
  | parametric _ => .parametric

def describe : Curve → String
  | graph f => f.describe
  | parametric p => p.describe

/-- Samples a curve in the mode that fits it. -/
def sample (curve : Curve) (dice : Dice) (domain : Option (Float × Float)) (points : Nat)
    (v : Viewport Float) (settings : Settings Float) :
    Except ArithmeticFault (SampledCurve Float) :=
  match curve with
  | graph f =>
    if f.variableName = "y" then sampleInverse (f.onList dice) domain points v settings
    else sampleExplicit (f.onList dice) domain points v settings
  | parametric p =>
    sampleParametric (p.abscissa.onList (dice.part 0))
      (p.ordinate.onList (dice.part 1)) domain points v
      settings

/-- What is wrong with so many samples of a curve that the mode does not fit. -/
def misfit (mode : SamplingMode) (count : Nat) : ArgumentFault :=
  match mode with
  | .explicit => .notSingle
  | .inverse => .notOrdered "<" "float" "list"
  | .parametric => if count < 2 then .tooFewItems count else .tooManyItems

/-- Samples a curve in the mode that is asked for. -/
def sampleIn (curve : Curve) (mode : SamplingMode) (dice : Dice) (domain : Option (Float × Float))
    (points : Nat) (v : Viewport Float) (settings : Settings Float) :
    Except ArgumentFault (SampledCurve Float) :=
  let nowhere (xs : List Float) : List Float := xs.map fun _ => Scalar.undefined
  match mode, curve with
  | .explicit, graph f =>
    (sampleExplicit (f.onList dice) domain points v settings).mapError .arithmetic
  | .inverse, graph f =>
    (sampleInverse (f.onList dice) domain points v settings).mapError .arithmetic
  | .parametric, parametric _ => (curve.sample dice domain points v settings).mapError .arithmetic
  | mode, _ =>
    let standIn := match mode with
      | .explicit => sampleExplicit nowhere domain points v settings
      | .inverse => sampleInverse nowhere domain points v settings
      | .parametric => sampleParametric nowhere nowhere domain points v settings
    (standIn.mapError .arithmetic).bind fun c =>
      if c.sampleCount = 0 then .ok c else .error (misfit mode c.sampleCount)

end Curve

end CurveBoard
