import CurveBoard.Algebra.Nature

/-!
# Calculi

A calculus says how expressions are put together: what the sum, the product, the power and the
functions of given expressions are. Its rules need sums and products of parts again, and for those
they use another calculus; `Canonical` builds one that goes on simplifying to a fixed depth from the
one here that leaves everything as it is.
-/
namespace CurveBoard

structure Calculus where
  sum : List Expression → Expression
  product : List Expression → Expression
  power : Expression → Expression → Expression
  apply : AlgebraicFunction → List Expression → Expression

namespace Coefficient

/-- The quotient of two numbers. An exact number is divided by an approximation through its
reciprocal. -/
def quotient (a b : Coefficient) : Expression :=
  match a, b with
  | exact p, exact q =>
    if q = 0 then if p = 0 then .undefined else .unbounded else .number (exact (p / q))
  | exact p, rounded y =>
    if y.isZero then if p = 0 then .undefined else .unbounded
    else .number (exact p * approximation (BigFloat.quotient precision 1 y))
  | rounded x, b =>
    match b.approximate? with
    | some y =>
      if y.isZero then .unbounded else .number (approximation (x.quotient precision y))
    | none => if b.isInfinite then 0 else .undefined
  | a, b => if b.isInfinite || b == undefined || a == undefined then .undefined
    else if b.isZero then .unbounded
    else .number (infinite (a.isNegative != b.isNegative))

end Coefficient

namespace Calculus

/-- The calculus that leaves everything as it is. -/
def still : Calculus := ⟨.sum, .product, .power, .call⟩

variable (c : Calculus)

def add (a b : Expression) : Expression := c.sum [a, b]

def times (a b : Expression) : Expression := c.product [a, b]

def negate (a : Expression) : Expression := c.product [.minusOne, a]

def subtract (a b : Expression) : Expression := c.sum [a, c.negate b]

def reciprocal (a : Expression) : Expression := c.power a .minusOne

def divide (a b : Expression) : Expression :=
  match a, b with
  | .number p, .number q => p.quotient q
  | a, b => c.product [a, c.reciprocal b]

def sqrt (a : Expression) : Expression := c.power a .half

/-- A named function of one argument. -/
def named (f : NamedFunction) (argument : Expression) : Expression := c.apply (.named f) [argument]

/-- A rational multiple of the circle number. -/
def turn (q : Rat) : Expression := c.product [.ofRat q, .pi]

/-- The number with a real and an imaginary part. -/
def ofComplex (z : ComplexFloat) : Expression :=
  let part (x : BigFloat) : Expression := .number (.approximation x)
  if z.im.isZero then part z.re else c.sum [part z.re, c.product [part z.im, .imaginaryUnit]]

end Calculus

end CurveBoard
