import CurveBoard.Decimal.Binary
import CurveBoard.Formula.Tree
import CurveBoard.Scalar

/-!
# Formulas as symbolic expressions

Most formulas can be handed to computer algebra, where whole numbers are exact. Rounding down,
random numbers and factorials with a step other than one have no counterpart there. Which
expressions there are and how they are put together is left to the system of computer algebra; it
may refuse to when that asks for the value at a pole.
-/
namespace CurveBoard

/-- Why a formula has no symbolic counterpart, or its counterpart no value. -/
inductive SymbolicFault
  | multifactorial
  | noCounterpart (f : NamedFunction)
  | gammaPole
deriving DecidableEq, Repr

namespace SymbolicFault

def message : SymbolicFault → String
  | multifactorial => "multi-factorials have no SymPy equivalent"
  | noCounterpart f => s!"{f.name}() has no SymPy equivalent"
  | gammaPole => "gamma function pole"

end SymbolicFault

/-- A system of computer algebra with expressions of the given type. Where there is no result, it
would be the value at a pole. -/
structure ComputerAlgebra (E : Type) where
  integer : Int → E
  real : Float → E
  constant : Constant → E
  symbol : List Char → E
  isOne : E → Bool
  negate : E → Option E
  combine : Operation → E → E → Option E
  call : NamedFunction → List E → Option E

namespace ComputerAlgebra

variable {E : Type}

/-- A number as it is written in a formula, exact if it is whole. -/
def literal (a : ComputerAlgebra E) (x : Float) : E :=
  match Binary.ofFloat? x with
  | some b => if b.isInteger then a.integer b.truncate else a.real x
  | none => a.real x

end ComputerAlgebra

/-- A result of computer algebra, unless it is at a pole. -/
def orPole {E : Type} (result : Option E) : Except SymbolicFault E :=
  result.elim (.error .gammaPole) .ok

namespace Tree

variable {E : Type}

mutual
/-- The symbolic counterpart of a formula. The step of a factorial is looked at first. -/
def counterpart (a : ComputerAlgebra E) : Tree → Except SymbolicFault E
  | number value => .ok (a.literal value)
  | constant c => .ok (a.constant c)
  | free name => .ok (a.symbol name)
  | signed negative operand =>
    (operand.counterpart a).bind fun e => if negative then orPole (a.negate e) else .ok e
  | binary operation left right =>
    (left.counterpart a).bind fun e =>
      (right.counterpart a).bind fun e' => orPole (a.combine operation e e')
  | call .factorial [x, step] =>
    (step.counterpart a).bind fun one =>
      if a.isOne one then (x.counterpart a).bind fun e => orPole (a.call .factorial [e])
      else .error .multifactorial
  | call .chop _ => .error (.noCounterpart .chop)
  | call .random _ => .error (.noCounterpart .random)
  | call f arguments => (counterparts a arguments).bind fun parts => orPole (a.call f parts)

def counterparts (a : ComputerAlgebra E) : List Tree → Except SymbolicFault (List E)
  | [] => .ok []
  | t :: rest => (t.counterpart a).bind fun e => (counterparts a rest).map (e :: ·)
end

end Tree

end CurveBoard
