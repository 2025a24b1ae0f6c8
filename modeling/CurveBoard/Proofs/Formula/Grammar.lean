import CurveBoard.Formula.Parse
import Mathlib.Logic.Function.Iterate

/-!
# The grammar of formulas

A derivation shows how lexemes are made up by the rules of the grammar, one constructor a rule.
Where the grammar repeats a part, the repetitions are a part of their own:

    sum       = product terms              terms   = nothing | ('+' | '-') product terms
    product   = signed factors             factors = nothing | ('*' | '/') signed factors
    signed    = ('+' | '-') signed | factorial
    factorial = power '!'*
    power     = operand | operand '^' exponent
    exponent  = ('+' | '-') exponent | power
    operand   = number | variable | constant | '(' sum ')' | function '(' arguments
    arguments = sum ')' | sum ',' arguments

The tree of a derivation, its text in full and its word are recursions over it; none of them looks
at how formulas are read.
-/
namespace CurveBoard

/-- The sign that stands for a number of its own kind, and between the terms of a sum. -/
def Symbol.ofSign (negative : Bool) : Symbol := if negative then .minus else .plus

/-- The sign between the factors of a product. -/
def Symbol.ofDivision (division : Bool) : Symbol := if division then .slash else .star

def Operation.ofSign (negative : Bool) : Operation := if negative then .subtract else .add

def Operation.ofDivision (division : Bool) : Operation := if division then .divide else .multiply

/-- The parts of a formula. -/
inductive Part
  | sum
  | terms
  | product
  | factors
  | signed
  | factorial
  | power
  | exponent
  | operand
  | arguments (count : Nat)

namespace Part

/-- What a part means. The further terms of a sum and factors of a product take all before them. -/
@[reducible] def Meaning : Part → Type
  | terms | factors => Tree → Tree
  | arguments _ => List Tree
  | _ => Tree

/-- How loosely a part binds. -/
def looseness : Part → Nat
  | sum | terms => 4
  | product | factors => 3
  | signed | factorial => 2
  | power | exponent => 1
  | operand | arguments _ => 0

end Part

/-- Derivations in the given variables. A variable hides a constant of its name, a function hides
both. -/
inductive Derivation (names : List (List Char)) : Part → Type
  | sum (first : Derivation names .product) (others : Derivation names .terms) :
      Derivation names .sum
  | noTerm : Derivation names .terms
  | term (negative : Bool) (next : Derivation names .product) (others : Derivation names .terms) :
      Derivation names .terms
  | product (first : Derivation names .signed) (others : Derivation names .factors) :
      Derivation names .product
  | noFactor : Derivation names .factors
  | factor (division : Bool) (next : Derivation names .signed)
      (others : Derivation names .factors) :
      Derivation names .factors
  | signed (negative : Bool) (operand : Derivation names .signed) : Derivation names .signed
  | unsigned (inner : Derivation names .factorial) : Derivation names .signed
  | factorial (power : Derivation names .power) (signs : Nat) : Derivation names .factorial
  | bare (operand : Derivation names .operand) : Derivation names .power
  | raised (base : Derivation names .operand) (exponent : Derivation names .exponent) :
      Derivation names .power
  | signedExponent (negative : Bool) (exponent : Derivation names .exponent) :
      Derivation names .exponent
  | unsignedExponent (power : Derivation names .power) : Derivation names .exponent
  | number (digits : List Char) : Derivation names .operand
  | variable (name : List Char) (known : name ∈ names)
      (noFunction : NamedFunction.ofLetters? name = none) : Derivation names .operand
  | constant (c : Constant) (unhidden : c.letters ∉ names) : Derivation names .operand
  | group (inner : Derivation names .sum) : Derivation names .operand
  | call (f : NamedFunction) {count : Nat} (arguments : Derivation names (.arguments count))
      (accepted : f.accepts count = true) : Derivation names .operand
  | lastArgument (last : Derivation names .sum) : Derivation names (.arguments 1)
  | argument {count : Nat} (first : Derivation names .sum)
      (others : Derivation names (.arguments count)) : Derivation names (.arguments (count + 1))

namespace Derivation

variable {names : List (List Char)} {part : Part}

/-- The lexemes that are derived. -/
def word : {part : Part} → Derivation names part → List Lexeme
  | _, sum first others => first.word ++ others.word
  | _, noTerm => []
  | _, term negative next others => .symbol (.ofSign negative) :: (next.word ++ others.word)
  | _, product first others => first.word ++ others.word
  | _, noFactor => []
  | _, factor division next others => .symbol (.ofDivision division) :: (next.word ++ others.word)
  | _, signed negative operand => .symbol (.ofSign negative) :: operand.word
  | _, unsigned inner => inner.word
  | _, factorial power signs => power.word ++ List.replicate signs (.symbol .bang)
  | _, bare operand => operand.word
  | _, raised base exponent => base.word ++ .symbol .caret :: exponent.word
  | _, signedExponent negative exponent => .symbol (.ofSign negative) :: exponent.word
  | _, unsignedExponent power => power.word
  | _, number digits => [.number digits]
  | _, «variable» name _ _ => [.name name]
  | _, constant c _ => [.name c.letters]
  | _, group inner => .symbol .opening :: (inner.word ++ [.symbol .closing])
  | _, call f arguments _ => .name f.letters :: .symbol .opening :: arguments.word
  | _, lastArgument last => last.word ++ [.symbol .closing]
  | _, argument first others => first.word ++ .symbol .comma :: others.word

/-- What is meant: sums and products associate to the left and powers to the right, a factorial
takes a whole power, and a sign a whole factorial. -/
def tree : {part : Part} → Derivation names part → part.Meaning
  | _, sum first others => others.tree first.tree
  | _, noTerm => fun left => left
  | _, term negative next others => fun left =>
    others.tree (.binary (.ofSign negative) left next.tree)
  | _, product first others => others.tree first.tree
  | _, noFactor => fun left => left
  | _, factor division next others => fun left =>
    others.tree (.binary (.ofDivision division) left next.tree)
  | _, signed negative operand => .signed negative operand.tree
  | _, unsigned inner => inner.tree
  | _, factorial power signs => (fun t => .call .factorial [t])^[signs] power.tree
  | _, bare operand => operand.tree
  | _, raised base exponent => .binary .raise base.tree exponent.tree
  | _, signedExponent negative exponent => .signed negative exponent.tree
  | _, unsignedExponent power => power.tree
  | _, number digits => .number (numeralValue digits)
  | _, «variable» name _ _ => .free name
  | _, constant c _ => .constant c
  | _, group inner => inner.tree
  | _, call f arguments _ => .call f arguments.tree
  | _, lastArgument last => [last.tree]
  | _, argument first others => first.tree :: others.tree

/-- The formula in full, with powers and factorials written as calls. -/
def text : {part : Part} → Derivation names part → List Char
  | _, sum first others => first.text ++ others.text
  | _, noTerm => []
  | _, term negative next others => (Symbol.ofSign negative).char :: (next.text ++ others.text)
  | _, product first others => first.text ++ others.text
  | _, noFactor => []
  | _, factor division next others =>
    (Symbol.ofDivision division).char :: (next.text ++ others.text)
  | _, signed negative operand => (Symbol.ofSign negative).char :: operand.text
  | _, unsigned inner => inner.text
  | _, factorial power signs => (fun t => callText .factorial [t])^[signs] power.text
  | _, bare operand => operand.text
  | _, raised base exponent => callText .power [base.text, exponent.text]
  | _, signedExponent negative exponent => (Symbol.ofSign negative).char :: exponent.text
  | _, unsignedExponent power => power.text
  | _, number digits => digits
  | _, «variable» name _ _ => name
  | _, constant c _ => c.letters
  | _, group inner => '(' :: (inner.text ++ [')'])
  | _, call f arguments _ => f.letters ++ '(' :: arguments.text
  | _, lastArgument last => last.text ++ [')']
  | _, argument first others => first.text ++ ',' :: others.text

end Derivation

end CurveBoard
