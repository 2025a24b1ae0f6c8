import CurveBoard.Algebra.Counting
import CurveBoard.Algebra.Hyperbolic
import CurveBoard.Algebra.InverseRatio
import CurveBoard.Algebra.Logarithm
import CurveBoard.Algebra.Modulus
import CurveBoard.Algebra.Power
import CurveBoard.Algebra.Product
import CurveBoard.Algebra.Sum

/-!
# The calculus of formulas

Every rule asks a calculus about parts of its result. Here the rules are stacked: a calculus of
depth `n + 1` asks one of depth `n`, and at depth zero everything stays as it is. Rules lead to
smaller questions, so few levels are ever used.
-/
namespace CurveBoard

namespace Expression

/-- Whether an argument makes a function an approximation: a rounded number, or a complex number
with a rounded part. -/
def isRoundedNumber : Expression → Bool
  | number (.rounded _) => true
  | sum [number a, product [number b, imaginaryUnit]] => isRounded a || isRounded b
  | sum [number (.rounded _), imaginaryUnit] => true
  | _ => false
where
  isRounded : Coefficient → Bool
    | .rounded _ => true
    | _ => false

end Expression

namespace Calculus

variable (c : Calculus)

/-- What is known about a function at given arguments. -/
def functionRule? (f : AlgebraicFunction) (arguments : List Expression) : Option Expression :=
  match f, arguments with
  | .gamma, [x] => c.gammaRule? x
  | .named (.circular false false r), [x] => c.ratioRule? r x
  | .named (.circular true false r), [x] => c.inverseRatioRule? r x
  | .named (.circular false true r), [x] => c.hyperbolicRule? r x
  | .named (.circular true true r), [x] => c.inverseHyperbolicRule? r x
  | .named .naturalLogarithm, [x] => c.logarithmRule? x
  | .named .decimalLogarithm, [x] => some (c.decimalLogarithm x)
  | .named .exponential, [x] => c.exponentialRule? x
  | .named .squareRoot, [x] => some (c.sqrt x)
  | .named .absoluteValue, [x] => c.modulusRule? x
  | .named .sign, [x] => c.signRule? x
  | .named .power, [x, y] => some (c.power x y)
  | .named .factorial, [x] => factorialRule? x
  | .named .binomial, [n, k] => c.binomialRule? n k
  | _, _ => none

/-- The approximate value of a function of approximations. The inverse hyperbolic tangent and
cotangent are infinite at one and minus one; a factorial may have no value. -/
def approximateRule? (f : AlgebraicFunction) (arguments : List Expression) : Option Expression :=
  match Expression.approximateAll? (precision + 2 * BigFloat.spare) arguments with
  | none => none
  | some zs =>
    match f.approximate? (precision + BigFloat.spare) zs, f, zs with
    | some w, _, _ => some (c.ofComplex w)
    | none, .named .factorial, _ => some .pole
    | none, .named (.circular true true r), [z] =>
      if (r == .tangent || r == .cotangent) && z.isReal && z.re.magnitude == 1 then
        some (.number (.infinite z.re.isNegative))
      else none
    | none, _, _ => none

def applyRule (f : AlgebraicFunction) (arguments : List Expression) : Expression :=
  if arguments.any Expression.isPole then .pole
  else if arguments.any Expression.isUndefined then .undefined
  else
    match c.functionRule? f arguments with
    | some e => e
    | none =>
      let value? := if arguments.any Expression.isRoundedNumber then
        c.approximateRule? f arguments else none
      value?.getD (.call f arguments)

/-- All the rules, with another calculus for the parts. -/
def step : Calculus := ⟨c.sumRule, c.productRule, c.powerRule, c.applyRule⟩

/-- The rules, stacked a number of times. -/
def deep : (depth : Nat) → Calculus
  | 0 => still
  | depth + 1 => (deep depth).step

end Calculus

/-- The calculus that formulas are simplified with. -/
def algebra : Calculus := .deep 100

namespace Expression

/-- An expression, unless it is a pole. -/
def proper? (e : Expression) : Option Expression := if e.isPole then none else some e

mutual
/-- Puts an expression in the place of every symbol and simplifies again what held one; there is no
result when that asks for a value at a pole. -/
def substitute? (input : Expression) : Expression → Option Expression
  | symbol _ => some input
  | sum terms => (substituteAll? input terms).bind fun terms => (algebra.sum terms).proper?
  | product factors => (substituteAll? input factors).bind fun factors =>
    (algebra.product factors).proper?
  | power base exponent =>
    match substitute? input base, substitute? input exponent with
    | some base, some exponent => (algebra.power base exponent).proper?
    | _, _ => none
  | call f arguments =>
    (substituteAll? input arguments).bind fun arguments => (algebra.apply f arguments).proper?
  | e => some e

def substituteAll? (input : Expression) : List Expression → Option (List Expression)
  | [] => some []
  | e :: rest =>
    match substitute? input e, substituteAll? input rest with
    | some e, some rest => some (e :: rest)
    | _, _ => none
end

end Expression

end CurveBoard
