import CurveBoard.Algebra.Calculus
import CurveBoard.Algebra.Radical

/-!
# Powers

Powers of exact numbers are exact: a root of a whole number keeps what is no whole power under the
smallest root, and a root of `-1` stays one. A power of a power is a power where the principal value
allows it, and a root of a product is taken of those factors that are not negative.
-/
namespace CurveBoard

namespace Calculus

variable (c : Calculus)

/-- The digits up to which whole powers of exact numbers are written out. -/
def powerLimit : Nat := 67108864

/-- A whole power of an exact number other than zero, unless it has too many digits. -/
def exactPower? (q : Rat) (n : Int) : Option Rat :=
  let digits := (q.num.natAbs.log2 + q.den.log2) * n.natAbs
  if powerLimit < digits then none
  else
    let top := Int.pow q.num n.natAbs
    let bottom := Nat.pow q.den n.natAbs
    some (if 0 ≤ n then mkRat top bottom else mkRat (top.sign * bottom) top.natAbs)

/-- The power of `-1` with a fraction as the exponent. -/
def signPower (r : Rat) : Expression :=
  if r.den = 1 then if r.num % 2 = 0 then 1 else .minusOne
  else
    let whole := r.floor
    let rest := r - (whole : Rat)
    let root := if rest = 1 / 2 then .imaginaryUnit else .power .minusOne (.ofRat rest)
    if whole % 2 = 0 then root else c.negate root

/-- The parts of a root of a whole number, prime by prime: what comes out as a whole number, the
roots of lower degree, and the primes with their exponents that stay under the root. -/
def rootParts (r : Rat) (factors : List (Nat × Nat)) :
    Nat × List Expression × List (Nat × Nat) :=
  factors.foldl (fun (whole, lower, stays) (p, e) =>
    let e := e * r.num.natAbs
    let left := e % r.den
    let whole := whole * Nat.pow p (e / r.den)
    let g := Nat.gcd left r.den
    if left = 0 then (whole, lower, stays)
    else if g ≠ 1 then
      (whole, lower ++ [c.power (.ofInt p) (.ofRat (mkRat (left / g : Nat) (r.den / g)))], stays)
    else (whole, lower, stays ++ [(p, left)])) (1, [], [])

/-- A root of a natural number greater than one, if it can be written more simply. -/
def naturalRoot? (n : Nat) (r : Rat) : Option Expression :=
  match Radical.exactRoot? r.den n with
  | some root => some (.ofInt (Nat.pow root r.num.natAbs : Nat))
  | none =>
    let factors := match Radical.perfectPower? n with
      | some factor => [factor]
      | none => Radical.factors 32768 n
    let (whole, lower, stays) := c.rootParts r factors
    let common : Nat := stays.foldl (fun g (_, e) => Nat.gcd g e) 0
    let inner : Nat := stays.foldl (fun product (p, e) => product * Nat.pow p (e / common)) 1
    if inner = n && whole = 1 && lower.isEmpty then none
    else
      some (c.product
        ([.ofInt whole] ++ lower ++ [c.power (.ofInt inner) (.ofRat (mkRat common r.den))]))

/-- A power of an integer other than zero and one with a fraction as the exponent. -/
def integerPower? (n : Int) (r : Rat) : Option Expression :=
  if n = -1 then if 0 < r && r < 1 && r != 1 / 2 then none else some (c.signPower r)
  else if n < 0 && r = 1 / 2 then some (c.times .imaginaryUnit (c.power (.ofInt (-n)) (.ofRat r)))
  else if r < 0 then
    let inverse := c.power (.ofRat (mkRat 1 n.natAbs)) (.ofRat (-r))
    some (if n < 0 then c.times (c.power .minusOne (.ofRat r)) inverse else inverse)
  else
    (c.naturalRoot? n.natAbs r).map fun root =>
      if n < 0 then c.times root (c.power .minusOne (.ofRat r)) else root

/-- A power of a fraction with a fraction as the exponent: the denominator leaves the root. -/
def fractionPower (q r : Rat) : Expression :=
  if r < 0 then
    let inverse := c.power (.ofRat (mkRat q.den q.num.natAbs)) (.ofRat (-r))
    if q < 0 then c.times (c.power .minusOne (.ofRat r)) inverse else inverse
  else
    let whole := r.floor.toNat + 1
    let bottom := c.power (.ofInt q.den) (.ofRat ((whole : Rat) - r))
    let scale := Expression.ofRat (mkRat 1 (Nat.pow q.den whole))
    if q.num = 1 then c.times bottom scale
    else c.product [c.power (.ofInt q.num) (.ofRat r), bottom, scale]

/-- A power of an exact number other than zero and one with an exact exponent, if it can be written
more simply. -/
def exactNumberPower? (q r : Rat) : Option Expression :=
  if r.den = 1 then (exactPower? q r.num).map .ofRat
  else if q.den = 1 then c.integerPower? q.num r
  else some (c.fractionPower q r)

/-- A power of approximations. -/
def roundedPower? (x y : BigFloat) : Option Expression :=
  (ComplexFloat.power? precision (.ofReal x) (.ofReal y)).map c.ofComplex

/-- Zero to a power. -/
def zeroPower? (zero exponent : Expression) : Option Expression :=
  let nature := exponent.nature
  if nature.isPositive then some zero
  else if nature.isNegative then some .unbounded
  else if nature.isNotReal then some .undefined
  else if nature.isZero then some 1
  else
    let (n, rest) := exponent.splitNumber
    if n.isNegative then some (c.power .unbounded rest)
    else if n == 1 then none
    else some (c.power zero rest)

/-- Infinity to a power. -/
def infinitePower? (negative : Bool) (exponent : Expression) : Option Expression :=
  let nature := exponent.nature
  if negative then
    match exponent.integer? with
    | some n => some (if n < 0 then 0 else if n % 2 = 0 then .infinity
      else .number (.infinite true))
    | none =>
      if exponent.number?.any Coefficient.isInfinite then some .undefined
      else if nature.isNegative && exponent.isConstant then some 0
      else if exponent.isConstant then
        some (c.times (c.power .minusOne exponent) (c.power .infinity exponent))
      else none
  else if nature.isPositive then some .infinity
  else if nature.isNegative then some 0
  else none

/-- Infinity as the exponent. -/
def infiniteExponent? (base : Expression) : Option Expression :=
  match base with
  | .number (.infinite negative) => some (if negative then .undefined else .infinity)
  | base =>
    match base.realValue? with
    | some x =>
      if BigFloat.isLess 1 x then some .infinity
      else if BigFloat.isLess x.magnitude 1 then some 0
      else if BigFloat.isLess x (-1) then some .unbounded
      else some .undefined
    | none => none

def numberPower? (base : Coefficient) (exponent : Expression) : Option Expression :=
  match base, exponent with
  | .undefined, _ => some .undefined
  | .infinite negative, e => c.infinitePower? negative e
  | base, .number (.infinite true) => some (c.power ((1 : Coefficient).quotient base) .infinity)
  | .rounded x, .number (.exact r) =>
    if x.isZero then c.zeroPower? (.number (.rounded x)) exponent
    else if r.num = 1 && r.den % 2 = 1 && r.den != 1 && x.isNegative then
      some (c.times (.power .minusOne exponent) (c.power (.number (.rounded (-x))) exponent))
    else if r.den = 1 then c.roundedPower? x (BigFloat.ofInt r.num)
    else c.roundedPower? x (BigFloat.ofRat precision r)
  | .rounded x, .number (.rounded y) =>
    if x.isZero && !y.isZero then c.zeroPower? (.number (.rounded x)) exponent
      else c.roundedPower? x y
  | .rounded x, e => if x.isZero then c.zeroPower? (.number (.rounded x)) e else none
  | .exact q, .number (.exact r) => if q = 0 then c.zeroPower? 0 exponent
    else c.exactNumberPower? q r
  | .exact q, .number (.rounded y) =>
    if q = 0 then c.zeroPower? 0 exponent else c.roundedPower? (BigFloat.ofRat precision q) y
  | .exact q, e =>
    if q = 0 then c.zeroPower? 0 e
    else
      let nature := e.nature
      if q = -1 && nature.isOdd then some .minusOne
      else if q < 0 && nature.isEven then some (c.power (.ofRat (-q)) e)
      else none

/-- A power of the imaginary unit. -/
def imaginaryPower? (exponent : Expression) : Option Expression :=
  match exponent.rational? with
  | none => none
  | some r =>
    if r.den = 1 then
      some (match r.num % 4 with
        | 0 => 1
        | 1 => .imaginaryUnit
        | 2 => .minusOne
        | _ => .product [.minusOne, .imaginaryUnit])
    else
      let turns := (r / 2).floor
      let root := Expression.power .imaginaryUnit (.ofRat (r - (2 * turns : Rat)))
      some (if turns % 2 = 0 then root else .product [.minusOne, root])

/-- Whether a number is a half of an odd integer. -/
def isHalfOdd (e : Expression) : Bool := e.rational?.any fun r => r.den = 2

/-- The sign that a root of a power has beside the power of the root, where the base has a certain
angle. -/
def rootSign? (base exponent outer : Expression) : Option Expression :=
  let angle := if base.nature.isNegative then some (BigFloat.pi Expression.tellingDigits)
    else if base.isConstant then
      (base.approximate? Expression.tellingDigits).map fun z =>
        BigFloat.angle Expression.tellingDigits z.re z.im
    else none
  match angle, exponent.realValue?, outer.rational? with
  | some a, some e, some r =>
    let circle := (BigFloat.pi Expression.tellingDigits).halved (-1)
    let turns := ((⟨1, -1⟩ : BigFloat) - (e * a).quotient Expression.tellingDigits circle).floor
    some (if (r.num * turns) % 2 = 0 then 1 else .minusOne)
  | _, _, _ => none

/-- A power of the power of `base` with `exponent`. -/
def nestedPower? (base exponent outer : Expression) : Option Expression :=
  let joined (base : Expression) : Option Expression := some (c.power base (c.times exponent outer))
  if outer.nature.isInteger then joined base
  else if !exponent.nature.isReal then none
  else
    let nature := base.nature
    if exponent.integer? == some (-1) && isHalfOdd outer && nature.isNegative then
      some (c.times (c.power .minusOne outer) (c.power (c.negate base) (c.times exponent outer)))
    else if exponent.integer? == some (-1) && isHalfOdd outer && !nature.negative then
      some (c.power base (c.negate outer))
    else
      let base := if exponent.nature.isEven && nature.isReal then
        c.named .absoluteValue base else base
      let nature := base.nature
      let size := (exponent.realValue?).map BigFloat.magnitude
      let below (n : Nat) : Bool := size.any fun x => BigFloat.isLess x (BigFloat.ofInt n)
      let reNonnegative := nature.isNonnegative || nature.isImaginary
        || (base.isConstant && (base.certainParts.1).any fun re => !re.isNegative)
      if below 1 || nature.isNonnegative || (reNonnegative && below 2)
          || (nature.isNotReal && exponent.rational?.any fun r => r == 2 || r == -2) then
        joined base
      else if isHalfOdd outer then
        (rootSign? base exponent outer).bind fun sign => (joined base).map (c.times sign)
      else none

/-- A power of a product with a fraction as the exponent. -/
def productRoot (factors : List Expression) (exponent : Expression) : Expression :=
  let nonnegative := factors.filter fun e => e.nature.isNonnegative
  let negative := factors.filter fun e => e.nature.isNegative && !e.nature.isNonnegative
  let others := factors.filter fun e => !e.nature.isNonnegative && !e.nature.isNegative
  let units := others.filter fun e => e == .imaginaryUnit
  let others := others.filter fun e => !(e == .imaginaryUnit)
  -- pairs of imaginary units are minus signs
  let negative := if units.length % 4 < 2 then negative else negative ++ [.minusOne]
  let others := if units.length % 2 = 1 then others ++ [.imaginaryUnit] else others
  let (separate, kept) : List Expression × List Expression :=
    if negative.length ≤ 1 then
      match negative, others with
      | [.number d], _ :: _ =>
        if d == .exact (-1) then (nonnegative, others ++ [.minusOne])
        else (nonnegative ++ [.number (-d)], others ++ [.minusOne])
      | negative, others => (nonnegative, others ++ negative)
    else
      let (front, negative) : List Expression × List Expression := match others, negative with
        | [], .number d :: rest => ([.number d], rest)
        | _, negative => ([], negative)
      let sign : List Expression := if negative.length % 2 = 1 then [.minusOne] else []
      let residue := c.product (front ++ sign)
      (nonnegative ++ negative.map c.negate, if residue == 1 then others else others ++ [residue])
  let rest : List Expression := match kept with
    | [] => []
    | [e] => [c.power e exponent]
    | kept => [.power (c.product kept) exponent]
  c.product (separate.map (fun e => c.power e exponent) ++ rest)

/-- A power of a product. -/
def productPower? (factors : List Expression) (exponent : Expression) : Option Expression :=
  match exponent with
  | .number (.exact r) =>
    if r.den = 1 then some (c.product (factors.map fun e => c.power e exponent))
    else if factors.any fun e => e.nature.isNonnegative || e.nature.isNegative then
      some (c.productRoot factors exponent)
    else none
  | .number (.rounded _) =>
    if factors.any fun e => e.nature.isNonnegative || e.nature.isNegative then
      some (c.productRoot factors exponent)
    else none
  | _ => none

/-- A power of a sum with approximate numbers: the number of the greatest magnitude is taken out. -/
def sumPower? (terms : List Expression) (exponent : Expression) : Option Expression :=
  let split := terms.map Expression.splitNumber
  let isRounded : Coefficient → Bool
    | .rounded _ => true
    | _ => false
  let rational := exponent.rational?.isSome && terms.all Expression.isConstant
  if rational || !exponent.isNumber || exponent.rational?.any (fun r => r == 1 || r == -1) then none
  else if !split.any fun (n, _) => isRounded n then none
  else
    let greatest := split.foldl (fun (greatest : Coefficient) (n, _) =>
      if greatest.isLess n.magnitude then n.magnitude else greatest) (.ofInt (-1))
    let isUnit := match greatest with
      | .exact q => q == 1
      | .rounded x => x == 1
      | _ => true
    if isUnit then none
    else
      let terms := split.map fun (n, rest) =>
        if n == greatest then rest
        else if n == -greatest then c.negate rest
        else c.times (n.quotient greatest) rest
      some (c.times (c.power (.number greatest) exponent) (.power (c.sum terms) exponent))

/-- The exponent that `e` gets in a power whose exponent has the logarithm of the base as its
denominator. -/
def naturalExponent? (base exponent : Expression) : Option Expression :=
  let logarithm := Expression.power (.named .naturalLogarithm base) .minusOne
  let isDivisor (e : Expression) : Bool :=
    match e with
    | .power _ exponent => exponent.isMinus
    | _ => false
  let factors := exponent.factors
  if (factors.filter isDivisor).length = 1 && factors.any (· == logarithm) then
    some (c.product (factors.filter fun e => !(e == logarithm)))
  else none

/-- A power that depends on the kind of the base. -/
def basePower? (base exponent : Expression) : Option Expression :=
  match base with
  | .number n => c.numberPower? n exponent
  | .unbounded =>
    match exponent.number? with
    | some n => some (if n.isZero then .undefined else if n.isNegative then 0 else .unbounded)
    | none => none
  | .imaginaryUnit => imaginaryPower? exponent
  | .constant .e => some (c.named .exponential exponent)
  | .power inner innerExponent => c.nestedPower? inner innerExponent exponent
  | .product factors => c.productPower? factors exponent
  | .sum terms => c.sumPower? terms exponent
  | .call (.named .exponential) [x] => c.nestedPower? (.constant .e) x exponent
  | .call (.named .absoluteValue) [x] =>
    match exponent.integer? with
    | some n =>
      if !x.nature.isReal then none
      else if n % 2 = 0 then some (c.power x exponent)
      else if n = -1 then none
      else some (c.times (c.power x (.ofInt (n - 1))) base)
    | none => none
  | .call (.named .sign) [x] =>
    if x.nature.isNonzero && exponent.nature.isEven then some 1 else none
  | _ => none

/-- Whether the sign of a base is taken out of a whole power. -/
def hasSign (base : Expression) : Bool :=
  match base with
  | .number n => n.isNegative
  | .product _ => base.isConstant && base.isMinus
  | _ => false

/-- A power whose base is neither undefined nor one, and whose exponent is neither zero nor one. -/
def properPower (base exponent : Expression) : Expression :=
  let isCompound := match exponent with
    | .sum _ => true
    | .product _ => true
    | .power _ _ => true
    | .call _ _ => true
    | _ => false
  let natural := if isCompound && !(base == .constant .e) then
    c.naturalExponent? base exponent else none
  match natural with
  | some e => c.named .exponential e
  | none => (c.basePower? base exponent).getD (.power base exponent)

/-- The power of expressions. -/
def powerRule (base exponent : Expression) : Expression :=
  if base.isPole || exponent.isPole then .pole
  else if exponent == .unbounded then .undefined
  else
    match exponent.integer? with
    | some 0 => 1
    | some 1 => base
    | whole =>
      if whole == some (-1) && base.number?.any Coefficient.isZero then .unbounded
      else if base.isUndefined || exponent.isUndefined then .undefined
      else if whole.isSome && hasSign base && !base.number?.any Coefficient.isInfinite then
        if whole.any fun n => n % 2 == 0 then c.power (c.negate base) exponent
        else c.negate (c.power (c.negate base) exponent)
      else if base.rational? == some 1 then
        if exponent.number?.any Coefficient.isInfinite then .undefined else 1
      else if exponent == .infinity then (infiniteExponent? base).getD (.power base exponent)
      else c.properPower base exponent

end Calculus

end CurveBoard
