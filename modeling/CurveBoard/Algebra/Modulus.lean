import CurveBoard.Algebra.Expansion

/-!
# Modulus and sign

The modulus of a product is the product of the moduli, as far as those are known; of a real power it
is the power of the modulus. What is known of an expression decides its sign.
-/
namespace CurveBoard

namespace Calculus

variable (c : Calculus)

def modulus (x : Expression) : Expression := c.named .absoluteValue x

/-- The same expression up to the sign, where sums that are written with a minus are turned
around. -/
def unsigned (x : Expression) : Expression :=
  let turned (e : Expression) : Expression :=
    match e with
    | .sum terms => if Expression.isMinus (.sum terms) then c.negate e else e
    | .power (.sum terms) exponent =>
      if Expression.isMinus (.sum terms) && exponent.integer?.isSome then
        c.power (c.negate (.sum terms)) exponent
      else e
    | e => e
  match x with
  | .product factors => .product (factors.map turned)
  | x => turned x

/-- A quotient whose numerator alone has no symbols. -/
def constantNumerator? (x : Expression) : Option (List Expression × List Expression) :=
  let isDivisor (e : Expression) : Bool :=
    match e with
    | .power _ exponent => exponent.isMinus
    | _ => false
  let factors := x.factors
  let symbolic := factors.filter fun e => !e.isConstant
  if !symbolic.isEmpty && symbolic.all isDivisor then
    some (factors.filter Expression.isConstant, symbolic)
  else none

/-- The modulus of a factor of a product, if it is known: the modulus, or the power of the
base's. -/
def knownModulus? (e : Expression) : Option Expression :=
  let known? (m : Expression) : Option Expression :=
    match m with
    | .call (.named .absoluteValue) _ => none
    | m => some m
  match e with
  | .power base exponent =>
    if exponent.nature.isInteger && exponent.nature.isNegative then
      (known? (c.modulus base)).map fun m => c.power m exponent
    else known? (c.modulus e)
  | e => known? (c.modulus e)

def modulusOfProduct (factors : List Expression) : Expression :=
  let known := factors.filterMap c.knownModulus?
  let unknown := factors.filter fun e => (c.knownModulus? e).isNone
  let rest := c.product unknown
  c.product (if unknown.isEmpty then known else known ++ [.named .absoluteValue rest])

/-- The modulus of a power of a real base. -/
def modulusOfPower? (x base exponent : Expression) : Option Expression :=
  let (b, e) := (base.nature, exponent.nature)
  if e.isInteger then
    if e.isEven then some x
    else if base == .minusOne then some 1
    else some (c.power (c.modulus base) exponent)
  else if b.isNonnegative && e.isReal then some x
  else if b.isNegative && e.isReal then some (c.power (c.negate base) exponent)
  else none

/-- The real terms of a sum, and the real factors of the imaginary unit in its other terms. -/
def realAndImaginary? (terms : List Expression) : Option (Expression × Expression) :=
  let isTurned (e : Expression) : Bool := e.factors.any (· == .imaginaryUnit)
  let factor (e : Expression) : Expression :=
    .ofFactors (e.factors.filter fun f => !(f == .imaginaryUnit))
  let re := terms.filter fun e => !isTurned e
  let im := (terms.filter isTurned).map factor
  if !im.isEmpty && (re ++ im).all fun e => e.nature.isReal then some (c.sum re, c.sum im) else none

/-- The modulus from what is known of an expression. -/
def modulusByNature? (x : Expression) : Option Expression :=
  let nature := x.nature
  if nature.isZero then some 0
  else if nature.isNonnegative then some x
  else if nature.isNonpositive then some (c.negate x)
  else if nature.isReal then none
  else
    let turned := c.negate (c.times .imaginaryUnit x)
    if nature.isImaginary && turned.nature.isNonnegative then some turned
    else
      match x with
      | .sum terms => (c.realAndImaginary? terms).map fun (re, im) =>
          c.sqrt (c.expand (c.sum [c.power re 2, c.power im 2]))
      | _ => none

def modulusRule? (x : Expression) : Option Expression :=
  match x with
  | .number n => some (.number n.magnitude)
  | .unbounded => some .infinity
  | .imaginaryUnit => some 1
  | .oscillating => some .oscillating
  | .call (.named .absoluteValue) _ => some x
  | given =>
    let x := c.unsigned given
    let changed : Option Expression := if x == given then none else some (.named .absoluteValue x)
    let found : Option Expression := match constantNumerator? x with
      | some (top, bottom) =>
        some (c.divide (c.modulus (c.product top))
          (c.modulus (c.product (bottom.map c.reciprocal))))
      | none =>
        match x with
        | .product factors => some (c.modulusOfProduct factors)
        | .power base exponent =>
          if base.nature.isReal then c.modulusOfPower? x base exponent else c.modulusByNature? x
        | .call (.named .exponential) [.product factors] =>
          let (units, others) :=
            (factors.filter (· == .imaginaryUnit), factors.filter fun f => !(f == .imaginaryUnit))
          if units.length = 1 && others.all fun f => f.nature.isReal then some 1
            else c.modulusByNature? x
        | x => c.modulusByNature? x
    found.or changed

def signOf (x : Expression) : Expression := c.named .sign x

/-- The sign of a product: known signs are taken out. -/
def signOfProduct? (factors : List Expression) : Option Expression :=
  let turned (e : Expression) : Expression := c.negate (c.times .imaginaryUnit e)
  let step := fun (state : Expression × List Expression) (e : Expression) =>
    let (sign, unknown) := state
    let nature := e.nature
    if nature.isPositive then (sign, unknown)
    else if nature.isNegative then (c.negate sign, unknown)
    else if nature.isImaginary && (turned e).nature.isPositive then
      (c.times sign .imaginaryUnit, unknown)
    else if nature.isImaginary && (turned e).nature.isNegative then
      (c.negate (c.times sign .imaginaryUnit), unknown)
    else (sign, unknown ++ [e])
  let (sign, unknown) := factors.foldl step ((1 : Expression), ([] : List Expression))
  if unknown.length = factors.length then none
  else if unknown.isEmpty then some sign
  else some (c.times sign (c.signOf (.ofFactors unknown)))

def signRule? (x : Expression) : Option Expression :=
  match x with
  | .product factors => c.signOfProduct? factors
  | .call (.named .sign) _ => some x
  | x =>
    let nature := x.nature
    if nature.isZero then some 0
    else if nature.isPositive then some 1
    else if nature.isNegative then some .minusOne
    else if !nature.isImaginary then none
    else
      let turned := c.negate (c.times .imaginaryUnit x)
      if turned.nature.isPositive then some .imaginaryUnit
      else if turned.nature.isNegative then some (c.negate .imaginaryUnit)
      else none

end Calculus

end CurveBoard
