import CurveBoard.Algebra.InverseRatio

/-!
# Hyperbolic functions

They are the ratios of imaginary angles, odd or even as those are, and algebraic expressions where
their argument is an inverse hyperbolic function.
-/
namespace CurveBoard

namespace Calculus

variable (c : Calculus)

/-- A hyperbolic function of an inverse one. -/
def hyperbolicOfInverse? (r inverse : Ratio) (y : Expression) : Option Expression :=
  let rise (_ : Unit) := c.sqrt (c.add 1 (c.power y 2))
  let fall (_ : Unit) := c.sqrt (c.subtract 1 (c.power y 2))
  let gap (_ : Unit) := c.times (c.sqrt (c.subtract y 1)) (c.sqrt (c.add y 1))
  match r, inverse with
  | .sine, .sine => some y
  | .sine, .cosine => some (gap ())
  | .sine, .tangent => some (c.divide y (fall ()))
  | .sine, .cotangent => some (c.reciprocal (gap ()))
  | .cosine, .sine => some (rise ())
  | .cosine, .cosine => some y
  | .cosine, .tangent => some (c.reciprocal (fall ()))
  | .cosine, .cotangent => some (c.divide y (gap ()))
  | .tangent, .sine => some (c.divide y (rise ()))
  | .tangent, .cosine => some (c.divide (gap ()) y)
  | .tangent, .tangent => some y
  | .tangent, .cotangent => some (c.reciprocal y)
  | .cotangent, .sine => some (c.divide (rise ()) y)
  | .cotangent, .cosine => some (c.divide y (gap ()))
  | .cotangent, .tangent => some (c.reciprocal y)
  | .cotangent, .cotangent => some y
  | _, _ => none

/-- The value of a hyperbolic function far out. -/
def hyperbolicOfInfinity (r : Ratio) (negative : Bool) : Expression :=
  match r with
  | .sine => .number (.infinite negative)
  | .cosine => .infinity
  | _ => if negative then .minusOne else 1

/-- A hyperbolic function of an imaginary argument. -/
def hyperbolicOfImaginary (r : Ratio) (y : Expression) : Expression :=
  match r with
  | .sine => c.times .imaginaryUnit (c.circular .sine y)
  | .cosine => c.circular .cosine y
  | .tangent => c.times .imaginaryUnit (c.circular .tangent y)
  | _ => c.negate (c.times .imaginaryUnit (c.circular .cotangent y))

/-- The hyperbolic sine, cosine, tangent or cotangent, if it can be written more simply. -/
def mainHyperbolic? (r : Ratio) (x : Expression) : Option Expression :=
  let mirrored (_ : Unit) : Expression :=
    let other := c.hyperbolic r (c.negate x)
    if r == .cosine then other else c.negate other
  match x with
  | .number n =>
    if n.isZero then some (ratioOfZero r)
    else
      match n with
      | .infinite negative => some (hyperbolicOfInfinity r negative)
      | n => if n.isNegative then some (mirrored ()) else none
  | .unbounded => some .undefined
  | x =>
    match c.imaginaryPart? x with
    | some y => some (c.hyperbolicOfImaginary r y)
    | none =>
      if x.isMinus then some (mirrored ())
      else
        match x with
        | .call (.named (.circular true true inverse)) [y] => c.hyperbolicOfInverse? r inverse y
        | _ => none

def hyperbolicRule? (r : Ratio) (x : Expression) : Option Expression :=
  if r != .secant && r != .cosecant then c.mainHyperbolic? r x
  else if x.isMinus then
    let other := c.hyperbolic r (c.negate x)
    some (if r == .secant then other else c.negate other)
  else
    let base := if r == .secant then Ratio.cosine else .sine
    match x with
    | .call (.named (.circular true true inverse)) [y] =>
      if inverse == r then some y else (c.mainHyperbolic? base x).map c.reciprocal
    | x => (c.mainHyperbolic? base x).map c.reciprocal

end Calculus

end CurveBoard
