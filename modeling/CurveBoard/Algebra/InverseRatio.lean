import CurveBoard.Algebra.Angle

/-!
# Inverse ratios

Inverse ratios of exact numbers are known where the angle is a simple part of the half turn, and an
inverse ratio of a ratio of a number gives the number, moved to the principal range. The inverse
hyperbolic functions of imaginary arguments are inverse ratios, and some of their values are
logarithms.
-/
namespace CurveBoard

namespace Expression

mutual
/-- Whether an approximation stands in an expression. -/
def isApproximate : Expression → Bool
  | number (.rounded _) => true
  | sum terms => anyApproximate terms
  | product factors => anyApproximate factors
  | power base exponent => base.isApproximate || exponent.isApproximate
  | call _ arguments => anyApproximate arguments
  | _ => false

def anyApproximate : List Expression → Bool
  | [] => false
  | e :: rest => e.isApproximate || anyApproximate rest
end

end Expression

namespace Calculus

variable (c : Calculus)

def inverseCircular (r : Ratio) (x : Expression) : Expression := c.named (.circular true false r) x

def inverseHyperbolic (r : Ratio) (x : Expression) : Expression := c.named (.circular true true r) x

/-- The rest on division of a real number without symbols by a multiple of the circle number. -/
def moduloTurns? (x : Expression) (turns : Rat) : Option Expression :=
  (x.realValue?).map fun value =>
    let period :=
      BigFloat.pi Expression.tellingDigits * BigFloat.ofRat Expression.tellingDigits turns
    let count := (value.quotient Expression.tellingDigits period).floor
    c.subtract x (c.turn (turns * (count : Rat)))

/-- Whether one real number without symbols is greater than a multiple of the circle number. -/
def isBeyondTurns (x : Expression) (turns : Rat) : Bool :=
  (x.realValue?).any fun value =>
    BigFloat.isLess (BigFloat.pi Expression.tellingDigits *
      BigFloat.ofRat Expression.tellingDigits turns) value

/-- An angle as a simple part of the half turn. -/
def simpleTurns? (angle : BigFloat) : Option Rat :=
  let turns := angle.quotient Expression.tellingDigits (BigFloat.pi Expression.tellingDigits)
  [2, 3, 4, 5, 6, 8, 10, 12].findSome? fun (q : Nat) =>
    let scaled := turns * BigFloat.ofInt q
    let p := (scaled + ⟨1, -1⟩).floor
    let error := scaled - BigFloat.ofInt p
    if error.isZero || error.size < -100 then some (mkRat p q) else none

/-- The angle of an exact number, if it is a simple part of the half turn. -/
def exactAngle? (r : Ratio) (x : Expression) : Option Expression :=
  if !x.isConstant || x.isApproximate then none
  else
    match x.approximate? Expression.tellingDigits with
    | none => none
    | some z =>
      match ComplexFloat.inverse? false Expression.tellingDigits r z with
      | some angle => if angle.isReal then (simpleTurns? angle.re).map c.turn else none
      | none => none

/-- An inverse ratio of a ratio of a number: the number itself or its complement, in the principal
range. -/
def angleOfRatio? (r : Ratio) (x : Expression) : Option Expression :=
  match x with
  | .call (.named (.circular false false inner)) [y] =>
    if (y.realValue?).isNone then none
    else
      let complement (other : Ratio) : Expression :=
        c.subtract (c.turn (1 / 2)) (c.inverseCircular other x)
      match r, inner with
      | .sine, .sine => fold y
      | .cosecant, .cosecant => fold y
      | .cosine, .cosine => mirror y
      | .secant, .secant => mirror y
      | .tangent, .tangent => shift y
      | .cotangent, .cotangent => shift y
      | .sine, .cosine => some (complement .cosine)
      | .cosine, .sine => some (complement .sine)
      | .secant, .cosecant => some (complement .cosecant)
      | .cosecant, .secant => some (complement .secant)
      | .tangent, .cotangent => some (back (complement .cotangent))
      | .cotangent, .tangent => some (back (complement .tangent))
      | _, _ => none
  | _ => none
where
  back (a : Expression) : Expression := if isBeyondTurns a (1 / 2) then c.subtract a .pi else a
  fold (y : Expression) : Option Expression := (c.moduloTurns? y 2).map fun a =>
    let a := if isBeyondTurns a 1 then c.subtract .pi a else a
    let a := if isBeyondTurns a (1 / 2) then c.subtract .pi a else a
    if isBeyondTurns (c.negate a) (1 / 2) then c.subtract (c.negate .pi) a else a
  mirror (y : Expression) : Option Expression := (c.moduloTurns? y 2).map fun a =>
    if isBeyondTurns a 1 then c.subtract (c.turn 2) a else a
  shift (y : Expression) : Option Expression := (c.moduloTurns? y 1).map back

/-- Inverse ratios of numbers that stand for themselves. -/
def angleOfNumber? (r : Ratio) (n : Coefficient) : Option Expression :=
  let quarter := c.turn (1 / 2)
  if n.isZero then
    some (match r with
      | .cosine => quarter
      | .cotangent => quarter
      | .secant => .unbounded
      | .cosecant => .unbounded
      | _ => 0)
  else if n.isInfinite then
    let far := c.times .infinity .imaginaryUnit
    let signed (e : Expression) : Expression := if n.isNegative then c.negate e else e
    some (match r with
      | .sine => signed (c.negate far)
      | .cosine => signed far
      | .tangent => signed quarter
      | .secant => quarter
      | _ => 0)
  else
    match n.integer?, r with
    | some 1, .sine => some quarter
    | some 1, .cosine => some 0
    | some 1, .secant => some 0
    | some 1, .cosecant => some quarter
    | some 1, _ => some (c.turn (1 / 4))
    | some (-1), .cosine => some .pi
    | some (-1), .secant => some .pi
    | _, _ => none

def inverseRatioRule? (r : Ratio) (x : Expression) : Option Expression :=
  let isOdd := r != .cosine && r != .secant
  let byNumber := (x.number?).bind (c.angleOfNumber? r)
  match byNumber, x with
  | some e, _ => some e
  | none, .unbounded =>
    some (match r with
      | .sine => .unbounded
      | .cosine => .unbounded
      | .tangent => .oscillating
      | .secant => c.turn (1 / 2)
      | _ => 0)
  | none, .oscillating => none
  | none, x =>
    if isOdd && x.isMinus then some (c.negate (c.inverseCircular r (c.negate x)))
    else
      match c.exactAngle? r x with
      | some angle => some angle
      | none =>
        match c.imaginaryPart? x, r with
        | some y, .sine => some (c.times .imaginaryUnit (c.inverseHyperbolic .sine y))
        | some y, .tangent => some (c.times .imaginaryUnit (c.inverseHyperbolic .tangent y))
        | some y, .cotangent =>
          some (c.negate (c.times .imaginaryUnit (c.inverseHyperbolic .cotangent y)))
        | some _, .cosine => some (c.subtract (c.turn (1 / 2)) (c.inverseCircular .sine x))
        | _, _ => c.angleOfRatio? r x

/-- The argument of a hyperbolic function of a real number without symbols. -/
def realArgument? (r : Ratio) (x : Expression) : Option Expression :=
  match x with
  | .call (.named (.circular false true inner)) [y] =>
    if inner == r && (y.realValue?).isSome then some y else none
  | _ => none

/-- Inverse hyperbolic functions of numbers that stand for themselves. -/
def areaOfNumber? (r : Ratio) (n : Coefficient) : Option Expression :=
  let logarithm (e : Expression) : Expression := c.named .naturalLogarithm e
  let quarter := c.times (c.turn (1 / 2)) .imaginaryUnit
  if n.isZero then
    some (match r with
      | .cosine => quarter
      | .cotangent => quarter
      | .secant => .infinity
      | .cosecant => .unbounded
      | _ => 0)
  else if n.isInfinite then
    some (match r with
      | .sine => .number n
      | .cosine => .infinity
      | .tangent => if n.isNegative then quarter else c.negate quarter
      | .secant => quarter
      | _ => 0)
  else
    let root := c.sqrt 2
    match n.integer?, r with
    | some 1, .sine => some (logarithm (c.add 1 root))
    | some 1, .cosecant => some (logarithm (c.add 1 root))
    | some 1, .tangent => some .infinity
    | some 1, .cotangent => some .infinity
    | some 1, _ => some 0
    | some (-1), .sine => some (logarithm (c.add .minusOne root))
    | some (-1), .cosecant => some (c.negate (logarithm (c.add 1 root)))
    | some (-1), .tangent => some (.number (.infinite true))
    | some (-1), .cotangent => some (.number (.infinite true))
    | some (-1), _ => some (c.times .pi .imaginaryUnit)
    | _, _ => none

def inverseHyperbolicRule? (r : Ratio) (x : Expression) : Option Expression :=
  let isOdd := r != .cosine && r != .secant
  let byNumber := (x.number?).bind (c.areaOfNumber? r)
  match byNumber, x with
  | some e, _ => some e
  | none, .unbounded =>
    some (match r with
      | .sine => .unbounded
      | .cosine => .unbounded
      | .cotangent => 0
      | .cosecant => 0
      | _ => .oscillating)
  | none, .oscillating => none
  | none, x =>
    match if x.isNumber then none else c.imaginaryPart? x, r with
    | some y, .sine => some (c.times .imaginaryUnit (c.inverseCircular .sine y))
    | some y, .tangent => some (c.times .imaginaryUnit (c.inverseCircular .tangent y))
    | some y, .cotangent =>
      some (c.negate (c.times .imaginaryUnit (c.inverseCircular .cotangent y)))
    | _, _ =>
      if isOdd && x.isMinus then some (c.negate (c.inverseHyperbolic r (c.negate x)))
      else if r == .cosine then
        -- between -1 and 1 it is an angle times the imaginary unit
        match c.exactAngle? .cosine x with
        | some angle => some (c.times angle .imaginaryUnit)
        | none => (realArgument? .cosine x).map (c.named .absoluteValue)
      else if r == .sine || r == .tangent then realArgument? r x
      else none

end Calculus

end CurveBoard
