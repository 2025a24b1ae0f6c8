import CurveBoard.Decimal.Binary

/-!
# Binary numbers of any size

An integer times a power of two, where neither has a limit. Sums and products are exact; `round`
keeps so many binary digits, a half going to the even neighbour, and quotients and square roots are
rounded once. A mantissa is odd unless the number is zero, so equal numbers are written alike.
-/
namespace CurveBoard

/-- The number `mantissa · 2 ^ exponent`. -/
structure BigFloat where
  mantissa : Int
  exponent : Int
deriving DecidableEq, Repr

namespace BigFloat

/-- How often two divides a natural number that is not zero. -/
def twosIn (n : Nat) : Nat := (n ^^^ (n - 1)).log2

/-- The number `mantissa · 2 ^ exponent`, written with an odd mantissa. -/
def scaled (mantissa exponent : Int) : BigFloat :=
  if mantissa = 0 then ⟨0, 0⟩
  else
    let twos := twosIn mantissa.natAbs
    ⟨mantissa / (twoPower twos : Int), exponent + twos⟩

def ofInt (n : Int) : BigFloat := scaled n 0

instance {n : Nat} : OfNat BigFloat n where
  ofNat := ofInt n

instance : Neg BigFloat where
  neg x := ⟨-x.mantissa, x.exponent⟩

/-- The mantissa on the grid `2 ^ exponent`, for a grid at least as fine as the number's own. -/
def mantissaOn (exponent : Int) (x : BigFloat) : Int :=
  x.mantissa * (twoPower (x.exponent - exponent).toNat : Int)

/-- The least integer `k` with `|x| < 2 ^ k`, for a number other than zero. -/
def size (x : BigFloat) : Int := x.exponent + x.mantissa.natAbs.log2 + 1

/-- The greatest count of binary digits that are written out. -/
def greatestSize : Nat := 1000000

/-- Terms that are smaller by more digits than can be written out are dropped. -/
instance : Add BigFloat where
  add x y :=
    if x.mantissa = 0 then y
    else if y.mantissa = 0 then x
    else if greatestSize < x.size - y.size then x
    else if greatestSize < y.size - x.size then y
    else
      let exponent := min x.exponent y.exponent
      scaled (x.mantissaOn exponent + y.mantissaOn exponent) exponent

instance : Sub BigFloat where
  sub x y := x + -y

instance : Mul BigFloat where
  mul x y := if x.mantissa = 0 ∨ y.mantissa = 0 then ⟨0, 0⟩
    else ⟨x.mantissa * y.mantissa, x.exponent + y.exponent⟩

def isZero (x : BigFloat) : Bool := x.mantissa == 0

def isNegative (x : BigFloat) : Bool := decide (x.mantissa < 0)

def isPositive (x : BigFloat) : Bool := decide (0 < x.mantissa)

def magnitude (x : BigFloat) : BigFloat := ⟨x.mantissa.natAbs, x.exponent⟩

def isLess (x y : BigFloat) : Bool := (x - y).isNegative

/-- Halves so often; a negative count doubles. -/
def halved (times : Int) (x : BigFloat) : BigFloat :=
  if x.mantissa = 0 then x else ⟨x.mantissa, x.exponent - times⟩

/-- A quotient of natural numbers with a sign, times a power of two, rounded to so many binary
digits. -/
def ratio (bits : Nat) (negative : Bool) (p q : Nat) (exponent : Int) : BigFloat :=
  if p = 0 ∨ q = 0 then ⟨0, 0⟩
  else
    let shift := binaryExponent p q + 1 - bits
    let rounded : Int := roundedQuotient (p * twoPower (-shift).toNat) (q * twoPower shift.toNat)
    scaled (if negative then -rounded else rounded) (exponent + shift)

/-- Keeps so many binary digits. -/
def round (bits : Nat) (x : BigFloat) : BigFloat :=
  if x.mantissa.natAbs.log2 < bits then x
  else ratio bits x.isNegative x.mantissa.natAbs 1 x.exponent

def quotient (bits : Nat) (x y : BigFloat) : BigFloat :=
  ratio bits (x.isNegative != y.isNegative) x.mantissa.natAbs y.mantissa.natAbs
    (x.exponent - y.exponent)

def ofRat (bits : Nat) (q : Rat) : BigFloat := ratio bits (decide (q.num < 0)) q.num.natAbs q.den 0

/-- The square root of the magnitude. -/
def root (bits : Nat) (x : BigFloat) : BigFloat :=
  if x.mantissa = 0 then x
  else
    let wanted := 2 * bits + 2 - x.mantissa.natAbs.log2
    let shift : Int := wanted + (x.exponent - wanted) % 2
    let square := x.mantissa.natAbs * twoPower shift.toNat
    let whole := square.sqrt
    let inexact := if whole * whole = square then 0 else 1
    -- a last digit that is set stands for all that is cut off
    round bits (scaled (2 * whole + inexact : Nat) ((x.exponent - shift) / 2 - 1))

/-- The count of factors of two that are written out. -/
def writtenTwos (exponent : Int) : Nat := min exponent.toNat greatestSize

/-- The largest integer that is at most the number, unless that is too large to be written out. -/
def floor (x : BigFloat) : Int :=
  if x.exponent < -greatestSize then if x.mantissa < 0 then -1 else 0
  else if 0 ≤ x.exponent then x.mantissa * (twoPower (writtenTwos x.exponent) : Int)
  else x.mantissa / (twoPower (writtenTwos (-x.exponent)) : Int)

def isInteger (x : BigFloat) : Bool := decide (0 ≤ x.exponent)

/-- The exact value, unless it is too large or too small to be written out. -/
def toRat (x : BigFloat) : Rat :=
  if 0 ≤ x.exponent then ((x.mantissa * (twoPower (writtenTwos x.exponent) : Int) : Int) : Rat)
  else mkRat x.mantissa (twoPower (writtenTwos (-x.exponent)))

/-- The number on the grid of so many binary places, cut off. -/
def fixed (places : Nat) (x : BigFloat) : Int := (x.halved (-places)).floor

def ofFixed (places : Nat) (n : Int) : BigFloat := scaled n (-places)

/-- The nearest double. -/
def toFloat (x : BigFloat) : Float :=
  if x.mantissa = 0 ∨ x.size < -1100 then nearestFloat x.isNegative 0 1
  else if 1100 < x.size then packFloat x.isNegative (twoPower 52) 2000
  else nearestFloat x.isNegative (x.mantissa.natAbs * twoPower x.exponent.toNat)
    (twoPower (-x.exponent).toNat)

def ofFloat? (x : Float) : Option BigFloat :=
  (Binary.ofFloat? x).map fun b => scaled (if b.negative then -(b.mantissa : Int)
    else b.mantissa) b.exponent

end BigFloat

end CurveBoard
