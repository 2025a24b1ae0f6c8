import CurveBoard.Algebra.Coefficient
import CurveBoard.Formula.NamedFunction

/-!
# Expressions of algebra

An expression is a number, a constant, a symbol, a sum, a product, a power or a function of
expressions. Sums and products are lists that stand in one order, whatever order they were written
in, with a number in front; so expressions that are alike are equal. Symbols stand for real numbers.

Two values beside the numbers have names: infinity without a direction, as one divided by zero is,
and what stays within bounds without having a limit. A pole is a value that was asked for and that
there is not.
-/
namespace CurveBoard

inductive AlgebraicFunction
  | named (f : NamedFunction)
  | gamma
deriving DecidableEq, Repr

inductive Expression
  | number (c : Coefficient)
  | unbounded
  | oscillating
  | pole
  | imaginaryUnit
  | constant (c : Constant)
  | symbol (name : List Char)
  | sum (terms : List Expression)
  | product (factors : List Expression)
  | power (base exponent : Expression)
  | call (f : AlgebraicFunction) (arguments : List Expression)

namespace AlgebraicFunction

/-- The name by which functions are ordered. -/
def name : AlgebraicFunction → String
  | named .binomial => "binomial"
  | named f => f.name
  | gamma => "gamma"

end AlgebraicFunction

namespace Coefficient

/-- The place of a number among the kinds of expressions. -/
def rank (c : Coefficient) : Nat :=
  match c with
  | exact q => if q = 0 then 0 else if q = 1 then 1 else if q = 1 / 2 then 2 else if q = -1 then 5
    else if q.den = 1 then 7 else 8
  | infinite false => 3
  | undefined => 4
  | infinite true => 6
  | rounded _ => 9

/-- The order among numbers of one kind. -/
def order : Coefficient → Coefficient → Ordering
  | exact p, exact q => (compare p.num q.num).then (compare p.den q.den)
  | rounded x, rounded y => ((compare x.isNegative.toNat y.isNegative.toNat).then
      (compare x.mantissa.natAbs y.mantissa.natAbs)).then (compare x.exponent y.exponent)
  | _, _ => .eq

end Coefficient

namespace Expression

instance {n : Nat} : OfNat Expression n where
  ofNat := number (Coefficient.exact (n : Rat))

instance : Inhabited Expression := ⟨0⟩

def ofInt (n : Int) : Expression := number (.exact (n : Rat))

def ofRat (q : Rat) : Expression := number (.exact q)

def half : Expression := ofRat (1 / 2)

def minusOne : Expression := ofInt (-1)

def infinity : Expression := number (.infinite false)

def undefined : Expression := number .undefined

def pi : Expression := constant .pi

/-- A function of one argument that formulas can name. -/
def named (f : NamedFunction) (argument : Expression) : Expression := call (.named f) [argument]

/-! ### The order of terms and factors -/

/-- The place of an expression among the kinds: numbers, constants, symbols, powers, products, sums
and then functions, the modulus first and the others by name. -/
def rank : Expression → Nat × String
  | number c => (c.rank, "")
  | constant .e => (10, "")
  | constant .pi => (11, "")
  | imaginaryUnit => (12, "")
  | symbol _ => (13, "")
  | power _ _ => (15, "")
  | product _ => (16, "")
  | sum _ => (17, "")
  | call (.named .absoluteValue) _ => (20, "")
  | oscillating => (100, "A")
  | unbounded => (100, "B")
  | pole => (100, "D")
  | call f _ => (100, f.name)

mutual
def order : Expression → Expression → Ordering
  | number c, number d => (compare c.rank d.rank).then (c.order d)
  | symbol name, symbol name' => compare (String.ofList name) (String.ofList name')
  | sum terms, sum terms' => (compare terms.length terms'.length).then (orderAll terms terms')
  | product factors, product factors' =>
    (compare factors.length factors'.length).then (orderAll factors factors')
  | power base exponent, power base' exponent' => (base.order base').then (exponent.order exponent')
  | call f arguments, call g arguments' =>
    (compare (rank (call f [])).1 (rank (call g [])).1).then
      ((compare f.name g.name).then
        ((compare arguments.length arguments'.length).then (orderAll arguments arguments')))
  | e, e' => (compare e.rank.1 e'.rank.1).then (compare e.rank.2 e'.rank.2)

def orderAll : List Expression → List Expression → Ordering
  | [], [] => .eq
  | [], _ => .lt
  | _, [] => .gt
  | e :: rest, e' :: rest' => (e.order e').then (orderAll rest rest')
end

instance : BEq Expression := ⟨fun e e' => e.order e' == .eq⟩

def sorted (expressions : List Expression) : List Expression :=
  expressions.mergeSort fun e e' => (e.order e').isLE

/-! ### Symbols -/

mutual
/-- The names of symbols, as often as they stand in an expression. -/
def names : Expression → List (List Char)
  | symbol name => [name]
  | sum terms => namesOfAll terms
  | product factors => namesOfAll factors
  | power base exponent => base.names ++ exponent.names
  | call _ arguments => namesOfAll arguments
  | _ => []

def namesOfAll : List Expression → List (List Char)
  | [] => []
  | e :: rest => e.names ++ namesOfAll rest
end

/-- Whether an expression has no symbols. -/
def isConstant (e : Expression) : Bool := e.names.isEmpty

/-! ### Parts -/

def number? : Expression → Option Coefficient
  | number c => some c
  | _ => none

def rational? (e : Expression) : Option Rat := e.number?.bind Coefficient.rational?

def integer? (e : Expression) : Option Int := e.number?.bind Coefficient.integer?

def isPole : Expression → Bool
  | pole => true
  | _ => false

def isUndefined : Expression → Bool
  | number .undefined => true
  | _ => false

def isNumber (e : Expression) : Bool := e.number?.isSome

/-- Whether an expression is the base of the natural logarithm. -/
def isEuler : Expression → Bool
  | constant .e => true
  | _ => false

def isSum : Expression → Bool
  | sum _ => true
  | _ => false

/-- The terms of a sum; anything else is a sum of itself. -/
def terms : Expression → List Expression
  | sum terms => terms
  | e => [e]

/-- The factors of a product; anything else is a product of itself. -/
def factors : Expression → List Expression
  | product factors => factors
  | e => [e]

/-- A sum of terms that are collected and ordered already. -/
def ofTerms : List Expression → Expression
  | [] => 0
  | [term] => term
  | terms => sum terms

/-- A product of factors that are collected and ordered already. -/
def ofFactors : List Expression → Expression
  | [] => 1
  | [factor] => factor
  | factors => product factors

/-- A number in front, and what it is multiplied with. -/
def splitNumber : Expression → Coefficient × Expression
  | number c => if c.isZero then (1, number c) else (c, 1)
  | product (number c :: rest) => (c, ofFactors rest)
  | e => (1, e)

/-- The base and the exponent of a power. A base of one divided by an integer is turned over, and
exponentials are powers of `e`. -/
def splitPower : Expression → Expression × Expression
  | power base exponent =>
    match base.rational? with
    | some q =>
      if q.num = 1 && q.den != 1 then
        match exponent with
        | number c => (ofInt q.den, number (-c))
        | product (number c :: rest) =>
          (ofInt q.den, if -c == 1 then ofFactors rest else product (number (-c) :: rest))
        | e => (ofInt q.den, product [minusOne, e])
      else (base, exponent)
    | none => (base, exponent)
  | call (.named .exponential) [x] => (constant .e, x)
  | e => (e, 1)

/-- Whether an expression has a negative number in front. -/
def hasMinus : Expression → Bool
  | number c => c.isNegative
  | product (number c :: _) => c.isNegative
  | _ => false

/-- Of two terms the one that comes later when their numbers in front are left out. -/
def laterTerm (e e' : Expression) : Expression :=
  if (e.splitNumber.2.order e'.splitNumber.2).isLE then e' else e

/-- Whether an expression is written with a minus: a negative number in front, or more such terms
than others. Of two opposite sums with equally many, it is the one whose latest term has the
minus. -/
def isMinus : Expression → Bool
  | sum terms =>
    let count := (terms.filter hasMinus).length
    if terms.length < 2 * count then true
    else if 2 * count < terms.length then false
    else (terms.foldl laterTerm 0).hasMinus
  | e => e.hasMinus

end Expression

end CurveBoard
