import CurveBoard.Algebra.Approximation

/-!
# What is known of an expression

An expression with symbols stands for many values. Its nature says which kinds of values those may
be: negative, zero or positive real ones, imaginary ones, other complex ones and infinity without
direction. What may be is never left out, so a property that all kinds share is certain.
-/
namespace CurveBoard

structure Nature where
  negative : Bool
  zero : Bool
  positive : Bool
  /-- On the imaginary axis, but not zero. -/
  imaginary : Bool
  /-- Neither real nor on the imaginary axis. -/
  complex : Bool
  unbounded : Bool
  /-- Whether the value is certainly finite. -/
  finite : Bool
  /-- Whether the value is an integer, if that is known. -/
  integer : Option Bool
  /-- Whether an integer is even, if that is known. -/
  even : Option Bool
deriving DecidableEq, Repr

namespace Nature

def anything : Nature := ⟨true, true, true, true, true, true, false, none, none⟩

def nothing : Nature := ⟨false, false, false, false, false, false, true, none, none⟩

def anyReal : Nature := { nothing with negative := true, zero := true, positive := true }

def anyComplex : Nature := { anyReal with imaginary := true, complex := true }

def isReal (n : Nature) : Bool := !n.imaginary && !n.complex && !n.unbounded

def isNotReal (n : Nature) : Bool := !n.negative && !n.zero && !n.positive

def isPositive (n : Nature) : Bool := n.isReal && !n.negative && !n.zero

def isNegative (n : Nature) : Bool := n.isReal && !n.positive && !n.zero

def isNonnegative (n : Nature) : Bool := n.isReal && !n.negative

def isNonpositive (n : Nature) : Bool := n.isReal && !n.positive

def isZero (n : Nature) : Bool := n.isReal && !n.negative && !n.positive

def isNonzero (n : Nature) : Bool := !n.zero

def isImaginary (n : Nature) : Bool := n.isNotReal && !n.complex && !n.unbounded

def isInteger (n : Nature) : Bool := n.integer == some true

def isEven (n : Nature) : Bool := n.isInteger && n.even == some true

def isOdd (n : Nature) : Bool := n.isInteger && n.even == some false

def ofInteger (i : Int) : Nature :=
  ⟨decide (i < 0), i == 0, decide (0 < i), false, false, false, true, some true,
    some (i % 2 == 0)⟩

/-- A real number with the sign of another one. -/
def ofSign (x : BigFloat) : Nature :=
  { nothing with
      negative := x.isNegative, zero := x.isZero, positive := x.isPositive, integer := some false }

def ofCoefficient (c : Coefficient) : Nature :=
  match c with
  | .exact q =>
    if q.den = 1 then ofInteger q.num
    else { nothing with
      negative := decide (q < 0), positive := decide (0 < q), integer := some false }
  | .rounded x => { ofSign x with integer := if x.isInteger then none else some false }
  | .infinite negative =>
    { nothing with negative, positive := !negative, finite := false, integer := some false }
  | .undefined => anything

/-- The nature of an expression without symbols, from the parts of its value that are certain. -/
def ofParts (parts : Option BigFloat × Option BigFloat) : Nature :=
  match parts with
  | (some re, some im) =>
    if im.isZero then ofSign re
    else if re.isZero then { nothing with imaginary := true, integer := some false }
    else { nothing with complex := true, integer := some false }
  | (none, some im) => if im.isZero then anyReal
    else { nothing with imaginary := true, complex := true }
  | (_, none) => { anything with unbounded := false, finite := true }

/-- Whether a sum or product of integers is one; another sum or product may be. -/
def bothIntegers (a b : Nature) : Option Bool :=
  if a.isInteger && b.isInteger then some true else none

def add (a b : Nature) : Nature :=
  let finite := a.finite && b.finite
  let integer := bothIntegers a b
  let even := match a.even, b.even with
    | some p, some q => some (p == q)
    | _, _ => none
  if a.isReal && b.isReal then
    ⟨a.negative || b.negative, (a.zero && b.zero) || (a.negative && b.positive) ||
      (a.positive && b.negative), a.positive || b.positive, false, false, false, finite,
      integer, even⟩
  else if a.isImaginary && b.isImaginary then
    { nothing with zero := true, imaginary := true, finite }
  else if finite then anyComplex
  else anything

def multiply (a b : Nature) : Nature :=
  let finite := a.finite && b.finite
  let integer := bothIntegers a b
  let even := match integer, a.even, b.even with
    | some true, some true, _ => some true
    | some true, _, some true => some true
    | some true, some false, some false => some false
    | _, _, _ => none
  if a.isReal && b.isReal then
    ⟨(a.negative && b.positive) || (a.positive && b.negative), a.zero || b.zero,
      (a.positive && b.positive) || (a.negative && b.negative), false, false, false, finite,
      integer, even⟩
  else if !finite then anything
  else if a.isReal && b.isImaginary then { nothing with zero := a.zero, imaginary := true }
  else if a.isImaginary && b.isReal then { nothing with zero := b.zero, imaginary := true }
  else if a.isImaginary && b.isImaginary then { nothing with negative := true, positive := true }
  else { anyComplex with zero := a.zero || b.zero }

/-- The nature of a power with a whole exponent. -/
def wholePower (a : Nature) (n : Int) : Nature :=
  let reachesZero := a.zero && decide (0 < n)
  let reachesInfinity := a.zero && decide (n < 0)
  let finite := a.finite && (decide (0 ≤ n) || !a.zero)
  let integer := if a.isInteger && decide (0 ≤ n) then some true else none
  if a.isReal then
    if n % 2 = 0 then
      ⟨false, reachesZero, a.negative || a.positive, false, false, reachesInfinity, finite,
        integer, a.even⟩
    else ⟨a.negative, reachesZero, a.positive, false, false, reachesInfinity, finite,
      integer, a.even⟩
  else if a.isImaginary then
    if n % 2 = 0 then { nothing with
      negative := decide (n % 4 = 2), positive := decide (n % 4 = 0), finite }
    else { nothing with imaginary := true, finite }
  else { anything with
    zero := reachesZero || !a.finite, unbounded := reachesInfinity || a.unbounded, finite }

/-- The nature of a power with a real exponent that is not whole. -/
def realPower (a e : Nature) : Nature :=
  if a.isPositive then { nothing with
    positive := true, zero := !(a.finite && e.finite), finite := a.finite && e.finite }
  else
    { anything with
      negative := a.complex || a.unbounded, unbounded := (a.zero && e.negative) || a.unbounded,
      zero := (a.zero && e.positive) || !a.finite || !e.finite,
      finite := a.finite && e.finite && !(a.zero && e.negative) }

/-- The nature of a square root. -/
def root (a : Nature) : Nature :=
  if a.isReal then
    { nothing with
        zero := a.zero, positive := a.positive, imaginary := a.negative, finite := a.finite }
  else { anything with negative := false, unbounded := a.unbounded, finite := a.finite }

def modulus (a : Nature) : Nature :=
  ⟨false, a.zero, a.negative || a.positive || a.imaginary || a.complex ||
    a.unbounded, false, false, false, a.finite, if a.isReal then a.integer else none, a.even⟩

def sign (a : Nature) : Nature :=
  if a.isReal then { a with finite := true, integer := some true, even := none }
  else anyComplex

def exponential (a : Nature) : Nature :=
  if a.isReal then { nothing with positive := true, zero := !a.finite, finite := a.finite }
  else if a.finite then { anyComplex with zero := false }
  else anything

def logarithm (a : Nature) : Nature :=
  if a.isPositive then { anyReal with finite := a.finite }
  else if a.isReal then
    { anyReal with
        imaginary := a.negative, complex := a.negative, unbounded := a.zero,
        finite := a.finite && !a.zero }
  else anything

/-- A value with the sign of the argument, finite if the argument is. -/
def alike (a : Nature) : Nature := { a with integer := none, even := none }

/-- Ratios of angles and areas, and their inverses. -/
def ratio (inverse hyperbolic : Bool) (r : Ratio) (a : Nature) : Nature :=
  if !a.isReal then if a.finite && !hyperbolic && (r == .sine || r == .cosine) then anyComplex
    else anything
  else
    match inverse, hyperbolic, r with
    | false, false, .sine => anyReal
    | false, false, .cosine => anyReal
    | false, false, .tangent => { anyReal with finite := false }
    | false, false, .cotangent => { anyReal with finite := false }
    | false, false, _ => { anyReal with zero := false, finite := false }
    | false, true, .sine => a.alike
    | false, true, .tangent => { a.alike with finite := true }
    | false, true, .cosine => { nothing with positive := true, finite := a.finite }
    | false, true, .secant => { nothing with positive := true, zero := !a.finite }
    | false, true, _ =>
      { a.alike with zero := !a.finite, unbounded := a.zero, finite := a.finite && !a.zero }
    | true, false, .tangent => { a.alike with finite := true }
    | true, false, .cotangent =>
      { a.alike with zero := !a.finite, positive := a.positive || a.zero, finite := true }
    | true, true, .sine => a.alike
    | true, true, .cosecant =>
      { a.alike with zero := !a.finite, unbounded := a.zero, finite := !a.zero }
    | _, _, _ => anything

end Nature

namespace AlgebraicFunction

/-- What is known of the value of a function, from what is known of its argument. -/
def nature (f : AlgebraicFunction) (argument : Nature) : Nature :=
  match f with
  | named (.circular inverse hyperbolic r) => Nature.ratio inverse hyperbolic r argument
  | named .exponential => argument.exponential
  | named .naturalLogarithm => argument.logarithm
  | named .absoluteValue => argument.modulus
  | named .sign => argument.sign
  | named .factorial =>
    if argument.isNonnegative then { Nature.nothing with
      positive := true, finite := argument.finite } else .anything
  | gamma =>
    if argument.isPositive then { Nature.nothing with positive := true, finite := argument.finite }
      else .anything
  | _ => .anything

end AlgebraicFunction

namespace Expression

mutual
/-- What is known from the parts of an expression. -/
def partsNature : Expression → Nature
  | number c => .ofCoefficient c
  | unbounded => { Nature.nothing with unbounded := true, finite := false }
  | oscillating => { Nature.anyReal with finite := false }
  | pole => .anything
  | imaginaryUnit => { Nature.nothing with imaginary := true, integer := some false }
  | constant _ => { Nature.nothing with positive := true, integer := some false }
  | symbol _ => .anyReal
  | sum terms => sumNature terms
  | product factors => productNature factors
  | power base exponent =>
    match exponent.integer? with
    | some n => base.partsNature.wholePower n
    | none =>
      if exponent == half then base.partsNature.root
      else if exponent.partsNature.isReal then base.partsNature.realPower exponent.partsNature
      else .anything
  | call f [argument] => f.nature argument.partsNature
  | call _ _ => .anything

def sumNature : List Expression → Nature
  | [] => .ofInteger 0
  | e :: rest => e.partsNature.add (sumNature rest)

def productNature : List Expression → Nature
  | [] => .ofInteger 1
  | e :: rest => e.partsNature.multiply (productNature rest)
end

/-- What is known of an expression. Without symbols it has one value. -/
def nature (e : Expression) : Nature :=
  let parts := e.partsNature
  match e with
  | number _ => parts
  | e =>
    if e.isConstant then
      let value := Nature.ofParts e.certainParts
      if value.isReal || value.isNotReal then
        { value with integer := parts.integer.or value.integer, even := parts.even }
      else parts
    else parts

end Expression

end CurveBoard
