import CurveBoard.Algebra.Expansion

/-!
# Factorials, the Gamma function and binomial coefficients

Factorials of natural numbers are exact. A binomial coefficient with a whole lower number is a
polynomial in the upper one, and is multiplied out; with another number below it is a quotient of
Gamma functions. Both are infinite without direction at the poles of the Gamma function.
-/
namespace CurveBoard

namespace Calculus

variable (c : Calculus)

/-- Factorials up to this number are written out. -/
def greatestFactorial : Nat := 20000

/-- The product of the numbers from `low` on, `count` of them, split in halves so that the factors
are of one size. -/
def productOfRun : (fuel : Nat) → (low count : Nat) → Nat
  | 0, low, count => if count = 0 then 1 else low
  | fuel + 1, low, count =>
    if count ≤ 1 then if count = 0 then 1 else low
    else productOfRun fuel low (count / 2) * productOfRun fuel (low + count / 2) (count - count / 2)

def naturalFactorial (n : Nat) : Nat := productOfRun (n.log2 + 2) 1 n

def factorialRule? (x : Expression) : Option Expression :=
  match x with
  | .number n =>
    if n.isZero then some 1
    else
      match n.integer? with
      | some i =>
        if i < 0 then some .unbounded
        else if i ≤ greatestFactorial then some (.ofInt (naturalFactorial i.toNat))
        else none
      | none => if n == .infinite false then some .infinity else none
  | _ => none

/-- The Gamma function at half of an odd number. -/
def gammaOfHalf (p : Int) : Expression :=
  let n := p.natAbs / 2
  let root := c.sqrt .pi
  let odd (k : Nat) : Int :=
    (List.range (k - 1)).foldl (fun (product : Int) (i : Nat) => product * (2 * i + 3 : Nat)) 1
  if 0 < p then c.product [.ofRat (mkRat (odd n) (twoPower n)), root]
  else
    let k := n + 1
    let sign : Int := if k % 2 = 0 then 1 else -1
    c.product [.ofRat (mkRat (sign * (twoPower k : Int)) (odd k).natAbs), root]

def gammaRule? (x : Expression) : Option Expression :=
  match x with
  | .number n =>
    let isWhole : Bool :=
      match n with
      | .exact q => q.den == 1
      | .rounded y => y.isInteger
      | _ => false
    if n == .infinite false then some .infinity
    else if isWhole then
      some (if n.isPositive then c.named .factorial (c.add x .minusOne) else .unbounded)
    else
      match n with
      | .exact q => if q.den = 2 then some (c.gammaOfHalf q.num) else none
      | _ => none
  | x => if x.nature.isInteger && x.nature.isNonpositive then some .unbounded else none

/-- The product of the `k` numbers that end with `n`, divided by the factorial of `k`. -/
def fallingQuotient (n : Expression) (k : Nat) : Expression :=
  match n.integer? with
  | some i =>
    if 0 ≤ i then .ofInt (binomialNumber i.toNat k)
    else c.expand (quotient n)
  | none => c.expand (quotient n)
where
  binomialNumber (n k : Nat) : Nat :=
    if n < k then 0
    else
      let k := min k (n - k)
      productOfRun (k.log2 + 2) (n - k + 1) k / naturalFactorial k
  quotient (n : Expression) : Expression :=
    let start := c.subtract n (.ofInt k)
    let (_, product) := (List.range k).foldl (fun (d, product) _ =>
      let d := c.add d 1
      (d, c.times product d)) (start, (1 : Expression))
    c.divide product (.ofInt (naturalFactorial k))

/-- The greatest lower number of a binomial coefficient that is written out as a polynomial. -/
def greatestDegree : Nat := 400

def binomialRule? (n k : Expression) : Option Expression :=
  let upper := n.nature
  let lower := k.nature
  let difference := c.subtract n k
  -- symmetry holds for upper numbers that are no negative integers
  let isSymmetric := upper.isNonnegative || upper.integer == some false
  if lower.isZero || (isSymmetric && difference.nature.isZero) then some 1
  else if (c.subtract k 1).nature.isZero ||
    (isSymmetric && (c.subtract difference 1).nature.isZero) then some n
  else if lower.isInteger then
    if lower.isNegative || (upper.isNonnegative && upper.isInteger &&
      difference.nature.isNegative) then some 0
    else
      match k.integer? with
      | some i =>
        if (n.integer?).isSome || i ≤ greatestDegree then
          some (c.fallingQuotient n i.toNat) else none
      | none => none
  else if upper.isInteger && (upper.isNegative || upper.isNotReal) then some .unbounded
  else if k.isConstant then
    let gamma (e : Expression) : Expression := c.apply .gamma [e]
    some (c.divide (gamma (c.add n 1)) (c.times (gamma (c.add k 1)) (gamma (c.add difference 1))))
  else none

end Calculus

end CurveBoard
