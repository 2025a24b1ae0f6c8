/-!
# Named functions

The functions and constants a formula may name. The circular functions come from six ratios; each
ratio has an inverse and a hyperbolic counterpart. A function that is not an inverse can be inverted
by writing `^-1` after its name.
-/
namespace CurveBoard

inductive Ratio
  | sine
  | cosine
  | tangent
  | secant
  | cosecant
  | cotangent
deriving DecidableEq, Repr

inductive NamedFunction
  | circular (inverse hyperbolic : Bool) (ratio : Ratio)
  | naturalLogarithm
  | decimalLogarithm
  | exponential
  | squareRoot
  | absoluteValue
  | sign
  | power
  | factorial
  | binomial
  | chop
  | random
deriving DecidableEq, Repr

inductive Constant
  | pi
  | e
deriving DecidableEq, Repr

namespace Ratio

def letters : Ratio → List Char
  | sine => "sin".toList
  | cosine => "cos".toList
  | tangent => "tan".toList
  | secant => "sec".toList
  | cosecant => "csc".toList
  | cotangent => "cot".toList

def all : List Ratio := [sine, cosine, tangent, secant, cosecant, cotangent]

end Ratio

/-- What turns the name of a ratio into the name of its inverse. -/
def inverseMark : List Char := "arc".toList

namespace NamedFunction

/-- The name that formulas use. -/
def letters : NamedFunction → List Char
  | circular inverse hyperbolic ratio =>
    (if inverse then inverseMark else []) ++ ratio.letters ++ (if hyperbolic then ['h'] else [])
  | naturalLogarithm => "ln".toList
  | decimalLogarithm => "log10".toList
  | exponential => "exp".toList
  | squareRoot => "sqrt".toList
  | absoluteValue => "abs".toList
  | sign => "sign".toList
  | power => "pow".toList
  | factorial => "factorial".toList
  | binomial => "C".toList
  | chop => "chop".toList
  | random => "ran".toList

def name (f : NamedFunction) : String := String.ofList f.letters

def all : List NamedFunction :=
  ([(false, false), (true, false), (false, true), (true, true)].flatMap fun (inverse, hyperbolic) =>
    Ratio.all.map (circular inverse hyperbolic)) ++
  [naturalLogarithm, decimalLogarithm, exponential, squareRoot, absoluteValue, sign,
    power, factorial, binomial, chop, random]

theorem mem_all (f : NamedFunction) : f ∈ all := by
  cases f with
  | circular inverse hyperbolic ratio => cases inverse <;> cases hyperbolic
    <;> cases ratio <;> decide
  | _ => decide

def ofLetters? (letters : List Char) : Option NamedFunction :=
  all.find? fun f => f.letters == letters

/-- The least and the greatest number of arguments. -/
def arity : NamedFunction → Nat × Nat
  | power => (2, 2)
  | factorial => (1, 2)
  | binomial => (2, 2)
  | chop => (1, 2)
  | random => (2, 3)
  | _ => (1, 1)

def accepts (f : NamedFunction) (count : Nat) : Bool :=
  f.arity.1 ≤ count && count ≤ f.arity.2

/-- Whether `^-1` after the name means the inverse function. -/
def invertible : NamedFunction → Bool
  | circular inverse _ _ => !inverse
  | _ => false

end NamedFunction

namespace Constant

def letters : Constant → List Char
  | pi => "pi".toList
  | e => "e".toList

def ofLetters? (letters : List Char) : Option Constant :=
  [pi, e].find? fun c => c.letters == letters

def value : Constant → Float
  | pi => 3.141592653589793
  | e => 2.718281828459045

end Constant

end CurveBoard
