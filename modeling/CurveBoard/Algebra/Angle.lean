import CurveBoard.Algebra.Calculus

/-!
# Ratios of angles

The ratios of an angle are odd or even, have a period, and are known exactly for the multiples of
the right angle and for those whose parts square roots can express. A quarter turn that is added to
an angle exchanges sine and cosine, and a ratio of an inverse ratio is an algebraic expression.
-/
namespace CurveBoard

namespace Calculus

variable (c : Calculus)

def circular (r : Ratio) (x : Expression) : Expression := c.named (.circular false false r) x

def hyperbolic (r : Ratio) (x : Expression) : Expression := c.named (.circular false true r) x

/-- The expression that the imaginary unit is multiplied with, if every term is such a product. -/
def imaginaryPart? (e : Expression) : Option Expression :=
  let one? (e : Expression) : Option Expression :=
    match e with
    | .imaginaryUnit => some 1
    | .product factors =>
      if factors.any (· == .imaginaryUnit) then
        some (.ofFactors (factors.filter fun f => !(f == .imaginaryUnit)))
      else none
    | _ => none
  match e with
  | .sum terms => (terms.mapM one?).map c.sum
  | e => one? e

/-- An approximation that is a fraction with a power of two close to it as the denominator,
exactly. -/
def exactTurns (n : Coefficient) : Coefficient :=
  match n with
  | .rounded x =>
    let rest := x.magnitude - BigFloat.ofInt x.magnitude.floor
    if rest.isZero then .ofInt x.floor
    else
      -- the power of two that is nearest in proportion
      let upper := BigFloat.isLess ⟨1, 2 * rest.size - 1⟩ (rest * rest)
      let places := if upper then -rest.size else 1 - rest.size
      if (x.halved (-places)).isInteger then .exact x.toRat else n
  | n => n

/-- An angle as a multiple of the circle number, without whole turns. -/
def turns? (e : Expression) : Option Expression :=
  match e with
  | .constant .pi => some 1
  | .product factors =>
    if factors.any (· == .pi) then
      let (n, rest) := (Expression.ofFactors (factors.filter fun f => !(f == .pi))).splitNumber
      let n := exactTurns n
      let nature := rest.nature
      if nature.isInteger then
        let n := n.modulo 2
        if n == 1 then some rest
        else if n.isZero then some (if nature.even.isSome then 0 else 2)
        else some (c.product [.number n, rest])
      else some (c.product [.number n, rest])
    else none
  | _ => none

/-- The multiples of the circle number among the terms of a sum, as quarter turns, and the other
terms with what is left of them. -/
def quarterTurns? (terms : List Expression) : Option (Rat × Expression) :=
  let multiple? (e : Expression) : Option Rat :=
    match e with
    | .constant .pi => some 1
    | .product [.number (.exact q), .constant .pi] => some q
    | _ => none
  let total := (terms.filterMap multiple?).foldl (· + ·) (0 : Rat)
  let others := terms.filter fun e => (multiple? e).isNone
  let half : Rat := 1 / 2
  let rest := total - half * ((total / half).floor : Rat)
  if total = 0 || total - rest = 0 then none
  else some (total - rest, c.sum (others ++ [c.turn rest]))

/-- The product of the fractions' cosines that a sum of two angles comes from. -/
def splitDenominator? (q : Nat) : Option (Nat × Nat) :=
  match q with
  | 12 => some (3, 4)
  | 20 => some (4, 5)
  | 30 => some (5, 6)
  | 15 => some (6, 10)
  | 24 => some (6, 8)
  | 40 => some (8, 10)
  | 60 => some (20, 30)
  | 120 => some (40, 60)
  | _ => none

/-- The cosine of a rational multiple of the circle number, if it is known exactly or belongs to a
smaller angle. -/
def cosineOfTurns? (r : Rat) : Option Expression :=
  if r.den = 1 then some (if r.num % 2 = 0 then 1 else .minusOne)
  else if r.den = 2 then some 0
  else
    let q := r.den
    let p := (r.num % (2 * q : Nat)).toNat
    let cosine (r : Rat) : Expression := c.circular .cosine (c.turn r)
    if q < p then some (c.negate (cosine (r - 1)))
    else if q < 2 * p then some (c.negate (cosine (1 - r)))
    else
      match splitDenominator? q with
      | some (a, b) =>
        let a : Rat := mkRat p a
        let b : Rat := mkRat p b
        some (c.add (c.times (cosine a) (cosine b))
          (c.times (cosine (1 / 2 - a)) (cosine (1 / 2 - b))))
      | none =>
        if 12 < q then none
        else if q = 3 then some .half
        else if q = 5 then
          let root := c.times (.ofRat (1 / 4)) (c.sqrt (.ofInt 5))
          some (c.add root (.ofRat (if p = 1 then 1 / 4 else -1 / 4)))
        else if q % 2 = 0 then
          some (c.sqrt (c.times .half (c.add 1 (cosine (2 * r)))))
        else none

/-- Whether an expression is a call of a ratio of an angle. -/
def isRatio (r : Ratio) : Expression → Bool
  | .call (.named (.circular false false s)) _ => s == r
  | _ => false

/-- The sine of a rational multiple of the circle number, as the cosine of another one. -/
def sineOfTurns? (r : Rat) (argument : Expression) : Option Expression :=
  if r.den = 1 then some 0
  else if r.den = 2 then some (if (r - 1 / 2).num % 2 = 0 then 1 else .minusOne)
  else
    let x := r - (2 * (r / 2).floor : Rat)
    let sine (r : Rat) : Expression := c.circular .sine (c.turn r)
    if 1 < x then some (c.negate (sine (x - 1)))
    else if 1 < 2 * x then some (sine (1 - x))
    else
      let y := r + 3 / 2
      let result := c.circular .cosine (c.turn (y - (2 * (y / 2).floor : Rat)))
      if !isRatio .cosine result then some result
      else if !(c.turn r == argument) then some (sine r)
      else none

/-- The sine and cosine of a rational multiple of the circle number, if both are known exactly. -/
def exactPair? (r : Rat) : Option (Expression × Expression) :=
  let cosine := c.circular .cosine (c.turn r)
  let sine := c.circular .cosine (c.turn (r - 1 / 2))
  if isRatio .cosine cosine || isRatio .cosine sine then none else some (sine, cosine)

/-- The tangents of the odd multiples of a tenth of the half turn, and of a fifth. -/
def tenthTangent (n : Nat) : Expression :=
  let five := c.sqrt (.ofInt 5)
  match n with
  | 1 => c.sqrt (c.subtract 1 (c.times (.ofRat (2 / 5)) five))
  | 2 => c.sqrt (c.subtract 5 (c.times 2 five))
  | 3 => c.sqrt (c.add 1 (c.times (.ofRat (2 / 5)) five))
  | _ => c.sqrt (c.add 5 (c.times 2 five))

/-- The fraction of a half turn that lies nearest to zero. -/
def nearTurns (r : Rat) : Rat := r - ((r + 1 / 2).floor : Rat)

def tangentOfTurns? (r : Rat) (argument : Expression) : Option Expression :=
  let q := r.den
  let p := (r.num % q).toNat
  let tangent (r : Rat) : Expression := c.circular .tangent (c.turn r)
  let near := nearTurns r
  let byParts (_ : Unit) : Option Expression :=
    match c.exactPair? near with
    | some (sine, cosine) => some (if cosine == 0 then .unbounded else c.divide sine cosine)
    | none => if c.turn near == argument then none else some (tangent near)
  if q = 1 then some 0
  else if q = 5 || q = 10 then
    let n := 10 * p / q
    some (if 5 < n then c.negate (c.tenthTangent (10 - n)) else c.tenthTangent n)
  else
    let byHalves := if q % 2 = 0 then c.exactPair? (2 * r) else none
    match byHalves with
    | some (sine, cosine) =>
      some (if sine == 0 then .unbounded else c.subtract (c.reciprocal sine) (c.divide cosine sine))
    | none =>
      match splitDenominator? q with
      | some (a, b) =>
        let (x, y) := (tangent (mkRat p a), tangent (mkRat p b))
        some (c.divide (c.subtract x y) (c.add 1 (c.times x y)))
      | none => byParts ()

def cotangentOfTurns? (r : Rat) (argument : Expression) : Option Expression :=
  let q := r.den
  let p := (r.num % q).toNat
  let cotangent (r : Rat) : Expression := c.circular .cotangent (c.turn r)
  let near := nearTurns r
  let byParts (_ : Unit) : Option Expression :=
    match c.exactPair? near with
    | some (sine, cosine) => some (if sine == 0 then .unbounded else c.divide cosine sine)
    | none => if c.turn near == argument then none else some (cotangent near)
  if q = 1 then some .unbounded
  else if q = 5 || q = 10 then some (c.circular .tangent (c.turn (1 / 2 - r)))
  else
    let byHalves := if 2 < q && q % 2 = 0 then c.exactPair? (2 * r) else none
    match byHalves with
    | some (sine, cosine) => some (c.add (c.reciprocal sine) (c.divide cosine sine))
    | none =>
      match splitDenominator? q with
      | some (a, b) =>
        let (x, y) := (cotangent (mkRat p a), cotangent (mkRat p b))
        some (c.divide (c.add 1 (c.times x y)) (c.subtract y x))
      | none => byParts ()

/-- A ratio of a multiple of the circle number. A multiple that is no rational number is only
written exactly. -/
def ratioOfTurns? (r : Ratio) (multiple argument : Expression) : Option Expression :=
  match multiple.rational? with
  | some q =>
    match r with
    | .sine => c.sineOfTurns? q argument
    | .cosine => c.cosineOfTurns? q
    | .tangent => c.tangentOfTurns? q argument
    | _ => c.cotangentOfTurns? q argument
  | none =>
    let angle := c.times multiple .pi
    if angle == argument then none else some (c.circular r angle)

/-- A ratio of an inverse ratio. -/
def ratioOfInverse (r inverse : Ratio) (y : Expression) : Expression :=
  let inverted := c.reciprocal y
  -- what completes the argument, or its reciprocal, to a right triangle
  let side (_ : Unit) := c.sqrt (c.subtract 1 (c.power y 2))
  let hypotenuse (_ : Unit) := c.sqrt (c.add 1 (c.power y 2))
  let farSide (_ : Unit) := c.sqrt (c.subtract 1 (c.power y (.ofInt (-2))))
  let farHypotenuse (_ : Unit) := c.sqrt (c.add 1 (c.power y (.ofInt (-2))))
  match r, inverse with
  | .sine, .sine => y
  | .sine, .tangent => c.divide y (hypotenuse ())
  | .sine, .cosine => side ()
  | .sine, .cotangent => c.reciprocal (c.times (farHypotenuse ()) y)
  | .sine, .cosecant => inverted
  | .sine, .secant => farSide ()
  | .cosine, .cosine => y
  | .cosine, .tangent => c.reciprocal (hypotenuse ())
  | .cosine, .sine => side ()
  | .cosine, .cotangent => c.reciprocal (farHypotenuse ())
  | .cosine, .cosecant => farSide ()
  | .cosine, .secant => inverted
  | .tangent, .tangent => y
  | .tangent, .sine => c.divide y (side ())
  | .tangent, .cosine => c.divide (side ()) y
  | .tangent, .cotangent => inverted
  | .tangent, .cosecant => c.reciprocal (c.times (farSide ()) y)
  | .tangent, .secant => c.times (farSide ()) y
  | _, .cotangent => y
  | _, .tangent => inverted
  | _, .sine => c.divide (side ()) y
  | _, .cosine => c.divide y (side ())
  | _, .cosecant => c.times (farSide ()) y
  | _, .secant => c.reciprocal (c.times (farSide ()) y)

/-- A ratio of a sum that contains quarter turns. -/
def ratioOfSum (r : Ratio) (quarters : Rat) (rest : Expression) : Expression :=
  let m := c.turn quarters
  let (sine, cosine) := (c.circular .sine m, c.circular .cosine m)
  match r with
  | .sine => c.add (c.times sine (c.circular .cosine rest)) (c.times cosine (c.circular .sine rest))
  | .cosine =>
    c.subtract (c.times cosine (c.circular .cosine rest)) (c.times sine (c.circular .sine rest))
  | .tangent => if cosine == 0 then c.negate (c.circular .cotangent rest)
    else c.circular .tangent rest
  | _ => if cosine == 0 then c.negate (c.circular .tangent rest) else c.circular .cotangent rest

/-- A ratio of an imaginary angle. -/
def ratioOfImaginary (r : Ratio) (x : Expression) : Expression :=
  match r with
  | .sine => c.times .imaginaryUnit (c.hyperbolic .sine x)
  | .cosine => c.hyperbolic .cosine x
  | .tangent => c.times .imaginaryUnit (c.hyperbolic .tangent x)
  | _ => c.negate (c.times .imaginaryUnit (c.hyperbolic .cotangent x))

/-- The value of a ratio where the angle is zero. -/
def ratioOfZero (r : Ratio) : Expression :=
  match r with
  | .cosine => 1
  | .cotangent => .unbounded
  | _ => 0

/-- The sine, cosine, tangent or cotangent of an angle, if it can be written more simply. -/
def mainRatio? (r : Ratio) (x : Expression) : Option Expression :=
  match x with
  | .number n =>
    if n.isZero then some (ratioOfZero r)
    else if n.isInfinite then some .oscillating
    else if n.isNegative then
      some (if r == .cosine then c.circular r (c.negate x)
        else c.negate (c.circular r (c.negate x)))
    else none
  | .unbounded => some .undefined
  | .oscillating => some .oscillating
  | x =>
    if x.isMinus then
      some (if r == .cosine then c.circular r (c.negate x)
        else c.negate (c.circular r (c.negate x)))
    else
      match c.imaginaryPart? x, c.turns? x with
      | some y, _ => some (c.ratioOfImaginary r y)
      | none, some multiple => c.ratioOfTurns? r multiple x
      | none, none =>
        match x with
        | .sum terms => (c.quarterTurns? terms).map fun (quarters, rest) =>
          c.ratioOfSum r quarters rest
        | .call (.named (.circular true false inverse)) [y] => some (c.ratioOfInverse r inverse y)
        | _ => none

/-- The secant or cosecant of an angle, by way of the cosine or sine. -/
def reciprocalRatio? (r : Ratio) (x : Expression) : Option Expression :=
  let base := if r == .secant then Ratio.cosine else .sine
  let rewritten (t : Expression) : Expression :=
    match t with
    | .call f [y] => if isRatio base (.call f [y]) then c.circular r y else c.reciprocal t
    | .product [.number n, .call f [y]] =>
      if n == .ofInt (-1) && isRatio base (.call f [y]) then c.negate (c.circular r y)
        else c.reciprocal t
    | .oscillating => .oscillating
    | t => c.reciprocal t
  if x.isMinus then
    some (if r == .secant then c.circular r (c.negate x) else c.negate (c.circular r (c.negate x)))
  else
    let smaller : Option Expression :=
      (c.turns? x).bind fun multiple => multiple.rational?.bind fun q =>
      if (2 * q).den = 1 then none
      else
        let p := (q.num % (2 * q.den : Nat)).toNat
        if q.den < p then some (c.negate (c.circular r (c.turn (q - 1))))
        else if q.den < 2 * p then
          let other := c.circular r (c.turn (1 - q))
          some (if r == .secant then c.negate other else other)
        else none
    smaller.orElse fun _ =>
      match x with
      | .call (.named (.circular true false inverse)) [y] =>
        if inverse == r then some y else (c.mainRatio? base x).map rewritten
      | x => (c.mainRatio? base x).map rewritten

def ratioRule? (r : Ratio) (x : Expression) : Option Expression :=
  match r with
  | .secant => c.reciprocalRatio? r x
  | .cosecant => c.reciprocalRatio? r x
  | r => c.mainRatio? r x

end Calculus

end CurveBoard
