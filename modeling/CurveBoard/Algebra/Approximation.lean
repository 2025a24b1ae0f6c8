import CurveBoard.Algebra.ComplexFloat
import CurveBoard.Algebra.Expression

/-!
# Approximate values of expressions

An expression without symbols has a complex value to any count of binary digits, unless a pole, an
infinity or something undefined stands in it.
-/
namespace CurveBoard

namespace AlgebraicFunction

/-- The Gamma function at the next number. -/
def factorial? (bits : Nat) (z : ComplexFloat) : Option ComplexFloat :=
  ComplexFloat.gamma? bits (z + 1)

/-- The value of a function of complex numbers. -/
def approximate? (bits : Nat) (f : AlgebraicFunction) (arguments : List ComplexFloat) :
    Option ComplexFloat :=
  match f, arguments with
  | gamma, [z] => ComplexFloat.gamma? bits z
  | named (.circular inverse hyperbolic ratio), [z] =>
    if inverse then ComplexFloat.inverse? hyperbolic bits ratio z
    else ComplexFloat.direct? hyperbolic bits ratio z
  | named .naturalLogarithm, [z] => ComplexFloat.log? bits z
  | named .exponential, [z] => ComplexFloat.exp? bits z
  | named .absoluteValue, [z] => some (.ofReal (z.modulus bits))
  | named .sign, [z] => if z.isZero then some 0
    else ComplexFloat.quotient? bits z (.ofReal (z.modulus (bits + BigFloat.spare)))
  | named .factorial, [z] => factorial? bits z
  | named .binomial, [n, k] =>
    let wide := bits + BigFloat.spare
    match factorial? wide n, factorial? wide k, factorial? wide (n - k) with
    | some top, some left, some right => ComplexFloat.quotient? bits top (left * right)
    | _, _, _ => none
  | _, _ => none

end AlgebraicFunction

namespace ComplexFloat

/-- The sum of numbers that were rounded. When imaginary parts cancel, it stays open whether they do
so exactly. -/
def roundedSum (bits : Nat) (terms : List ComplexFloat) : ComplexFloat :=
  let sum := (terms.foldl (· + ·) 0).round bits
  if sum.isReal && terms.any (!·.isReal) then ⟨sum.re, .scaled 1 (-4 * bits)⟩ else sum

end ComplexFloat

namespace Expression

mutual
def approximate? (bits : Nat) : Expression → Option ComplexFloat
  | number (.exact q) => some (.ofReal (BigFloat.ofRat bits q))
  | number (.rounded x) => some (.ofReal x)
  | imaginaryUnit => some .imaginaryUnit
  | constant .pi => some (.ofReal (BigFloat.pi bits))
  | constant .e => ComplexFloat.exp? bits 1
  | sum terms => (approximateAll? bits terms).map (ComplexFloat.roundedSum bits)
  | product factors => (approximateAll? bits factors).map fun zs =>
      zs.foldl (fun product z => (product * z).round bits) 1
  | power base exponent =>
    match base.approximate? bits, exponent.approximate? bits with
    | some z, some w => ComplexFloat.power? bits z w
    | _, _ => none
  | call f arguments => (approximateAll? bits arguments).bind (f.approximate? bits)
  | _ => none

def approximateAll? (bits : Nat) : List Expression → Option (List ComplexFloat)
  | [] => some []
  | e :: rest =>
    match e.approximate? bits, approximateAll? bits rest with
    | some z, some zs => some (z :: zs)
    | _, _ => none
end

/-- The digits that are enough to tell an expression from zero, unless it is zero. -/
def tellingDigits : Nat := 160

/-- Whether two approximations of different quality agree well enough to be trusted about the
sign. -/
def agree (x y : BigFloat) : Bool :=
  (x.isZero && y.isZero) ||
    (!x.isZero && !y.isZero && x.isNegative == y.isNegative && (x.size - y.size).natAbs ≤ 1)

/-- A part of a value, if it is certain: exactly zero, or with a certain sign. -/
def certain? (x y : BigFloat) : Option BigFloat := if agree x y then some x else none

/-- The certain parts of the value of an expression without symbols. -/
def certainParts (e : Expression) : Option BigFloat × Option BigFloat :=
  match e.approximate? tellingDigits with
  | none => (none, none)
  | some z =>
    -- a number is its own approximation, and so is anything that was not cut off
    match e with
    | number _ => (some z.re, some z.im)
    | e =>
      match e.approximate? (2 * tellingDigits) with
      | some w => (certain? z.re w.re, certain? z.im w.im)
      | none => (none, none)

/-- The real value of an expression without symbols, if it is certain that it is real. -/
def realValue? (e : Expression) : Option BigFloat :=
  if !e.isConstant then none
  else
    match e.certainParts with
    | (some re, some im) => if im.isZero then some re else none
    | _ => none

end Expression

end CurveBoard
