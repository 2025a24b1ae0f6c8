import CurveBoard.Decimal.Numeral

/-!
# Arithmetic with infinities and NaN

The geometry of a board is written once, over a `Scalar`: ordered numbers with the four operations,
two infinities and a value that is not a number, where comparisons answer as IEEE 754 has them
(nothing compares with NaN, not even itself). Doubles are the scalars a running board uses;
statements about exact arithmetic take exact numbers instead. `Geometry` adds the functions that
shapes need.

Three operations have no value everywhere and say so: division by zero, the integer part of an
infinity or of NaN, and the logarithm of a number that is not positive.
-/
namespace CurveBoard

class Scalar (α : Type) extends Add α, Sub α, Mul α, Div α, Neg α, LT α, LE α, BEq α,
    OfScientific α where
  decLt : DecidableLT α
  decLe : DecidableLE α
  ofInt : Int → α
  isFinite : α → Bool
  isNaN : α → Bool
  infinity : α
  /-- The largest integer at most the number, which is finite. -/
  floor : α → Int
  /-- The smallest integer at least the number, which is finite. -/
  ceil : α → Int
  /-- The nearest multiple of a hundredth, a half going to the even one. -/
  hundredths : α → α
  /-- The multiple of a hundredth that arrays round to: a hundredth of the integer nearest to the
  hundredfold. -/
  arrayHundredths : α → α

instance Scalar.decidableLT {α : Type} [Scalar α] : DecidableLT α := Scalar.decLt

instance Scalar.decidableLE {α : Type} [Scalar α] : DecidableLE α := Scalar.decLe

class Geometry (α : Type) extends Scalar α where
  pi : α
  sqrt : α → α
  hypotenuse : α → α → α
  sin : α → α
  cos : α → α
  arctan2 : α → α → α
  log10 : α → α
  /-- The text with exactly so many digits after the point, a half going to the even digit. -/
  fixedText : Nat → α → String

instance : Scalar Float where
  decLt := Float.decLt
  decLe := Float.decLe
  ofInt := floatOfInt
  isFinite := Float.isFinite
  isNaN := Float.isNaN
  infinity := 1.0 / 0.0
  floor x := ((Binary.ofFloat? x).map Binary.floor).getD 0
  ceil x := ((Binary.ofFloat? x).map Binary.ceil).getD 0
  hundredths := roundToHundredths
  arrayHundredths := roundHundredfold

instance : Geometry Float where
  pi := 3.141592653589793
  sqrt := Float.sqrt
  hypotenuse := hypotenuse
  sin := Float.sin
  cos := Float.cos
  arctan2 := Float.atan2
  log10 := Float.log10
  fixedText := fixedText

/-- What arithmetic refuses. -/
inductive ArithmeticFault
  | divisionByZero
  | integerOfInfinity
  | integerOfNaN
  | outsideDomain
  | integerTooLarge
deriving DecidableEq, Repr

namespace ArithmeticFault

def message : ArithmeticFault → String
  | divisionByZero => "float division by zero"
  | integerOfInfinity => "cannot convert float infinity to integer"
  | integerOfNaN => "cannot convert float NaN to integer"
  | outsideDomain => "math domain error"
  | integerTooLarge => "int too large to convert to float"

end ArithmeticFault

namespace Scalar

variable {α : Type} [Scalar α]

def ofNat (n : Nat) : α := ofInt n

/-- NaN, as the difference of two infinities. -/
def undefined : α := infinity - infinity

def isInfinite (x : α) : Bool := !isFinite x && !isNaN x

def absolute (x : α) : α := if x < 0.0 then -x else x

/-- The larger of two numbers; the first one where they do not compare. -/
def larger (x y : α) : α := if x < y then y else x

/-- The smaller of two numbers; the first one where they do not compare. -/
def smaller (x y : α) : α := if y < x then y else x

def quotient (x y : α) : Except ArithmeticFault α :=
  if y == 0.0 then .error .divisionByZero else .ok (x / y)

/-- An integer from a number, by a rounding that is meant for finite ones. -/
def toInteger (rounding : α → Int) (x : α) : Except ArithmeticFault Int :=
  if isNaN x then .error .integerOfNaN
  else if isFinite x then .ok (rounding x)
  else .error .integerOfInfinity

/-- The integer part. -/
def truncate (x : α) : Int := if x < 0.0 then ceil x else floor x

/-- The sign as a number: -1, 0 or 1, and NaN of NaN. -/
def sign (x : α) : α :=
  if x < 0.0 then -1.0 else if 0.0 < x then 1.0 else if x == 0.0 then 0.0 else x

/-- Whether two numbers agree up to a billionth of the larger one. -/
def nearlyEqual (x y : α) : Bool :=
  if x == y then true
  else if !isFinite x || !isFinite y then
    -- a NaN is near nothing and an infinity only to itself
    false
  else
    let difference := absolute (y - x)
    decide (difference ≤ absolute (1e-9 * y)) || decide (difference ≤ absolute (1e-9 * x))
      || decide (difference ≤ 0.0)

end Scalar

namespace Geometry

variable {α : Type} [Geometry α]

open Scalar in
def logarithm (x : α) : Except ArithmeticFault α :=
  if x ≤ 0.0 then .error .outsideDomain else .ok (log10 x)

def degrees (x : α) : α := x * (180.0 / pi)

def radians (x : α) : α := x * (pi / 180.0)

end Geometry

/-- A point of the plane, in mathematical or device coordinates. -/
abbrev Point (α : Type) := α × α

end CurveBoard
