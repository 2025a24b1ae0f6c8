import CurveBoard.Algebra.Canonical
import CurveBoard.Algebra.Measure
import CurveBoard.Formula.Symbolic

/-!
# A system of computer algebra

The expressions here with their calculus are a system that formulas can be handed to. In it a
factorial means the Gamma function, which has a pole at every negative whole number that is not
known to be exact.
-/
namespace CurveBoard

namespace Expression

/-- An operation between expressions. -/
def combine (operation : Operation) (left right : Expression) : Expression :=
  match operation with
  | .add => algebra.add left right
  | .subtract => algebra.subtract left right
  | .multiply => algebra.times left right
  | .divide => algebra.divide left right
  | .raise => algebra.power left right

def computerAlgebra : ComputerAlgebra Expression where
  integer n := .number (.ofInt n)
  real x := .number (.ofFloat x)
  constant := .constant
  symbol := .symbol
  isOne e := e.rational? == some 1
  negate e := (algebra.negate e).proper?
  combine operation left right := (combine operation left right).proper?
  call f arguments := (algebra.apply (.named f) arguments).proper?

/-- The digits to which values are computed, enough for the differences of close numbers. -/
def valueDigits : Nat := 400

/-- The real number that an expression without symbols stands for, if it is one. The two infinities
and the undefined number count as real. -/
def value? (e : Expression) : Option Float :=
  match e with
  | number (.exact q) => some (BigFloat.ofRat precision q).toFloat
  | number (.rounded x) => some x.toFloat
  | number (.infinite negative) => some (if negative then -Scalar.infinity else Scalar.infinity)
  | number .undefined => some Scalar.undefined
  | e =>
    match e.measured? with
    | some x => some x.toFloat
    | none =>
      match e.approximate? valueDigits with
      | some z => if z.isReal then some z.re.toFloat else none
      | none => none

/-- The value of an expression where its symbols stand for a number. -/
def valueAt (e : Expression) (input : Coefficient) : Except SymbolicFault (Option Float) :=
  match substitute? (.number input) e with
  | none => .error .gammaPole
  | some e => .ok e.value?

/-- The names of the symbols in alphabetical order. -/
def symbolNames (e : Expression) : List String := Tree.alphabetical e.names

end Expression

end CurveBoard
