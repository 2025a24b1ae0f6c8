/-!
# Doubles as exact numbers

A finite double is a natural number times a power of two, with a sign. Everything that must be exact
about doubles, from their decimal text to their integer part, is computed on that pair with natural
numbers, and `nearestFloat` goes back: it is the double nearest to a ratio, ties going to the even
neighbour. Only the two infinities and NaN have no such pair.
-/
namespace CurveBoard

/-- Powers of two, with a natural number as the exponent. -/
def twoPower (n : Nat) : Nat := Nat.pow 2 n

theorem twoPower_pos (n : Nat) : 0 < twoPower n := Nat.two_pow_pos n

/-- Powers of ten, with a natural number as the exponent. -/
def tenPower (n : Nat) : Nat := Nat.pow 10 n

/-- The finite double `± mantissa · 2 ^ exponent`. Zero keeps its sign. -/
structure Binary where
  negative : Bool
  mantissa : Nat
  exponent : Int
deriving DecidableEq, Repr

namespace Binary

/-- Takes a double apart; the infinities and NaN have no parts. -/
def ofFloat? (x : Float) : Option Binary :=
  let bits := x.toBits.toNat
  let negative := decide (bits / twoPower 63 = 1)
  let field : Nat := bits / twoPower 52 % twoPower 11
  let fraction := bits % twoPower 52
  if field = 2047 then none
  else if field = 0 then some ⟨negative, fraction, -1074⟩
  else some ⟨negative, twoPower 52 + fraction, (field : Int) - 1075⟩

/-- The magnitude is `numerator / denominator`. -/
def numerator (b : Binary) : Nat := b.mantissa * twoPower b.exponent.toNat

def denominator (b : Binary) : Nat := twoPower (-b.exponent).toNat

theorem denominator_pos (b : Binary) : 0 < b.denominator := twoPower_pos _

/-- The exact value. -/
def toRat (b : Binary) : Rat :=
  let magnitude := mkRat b.numerator b.denominator
  if b.negative then -magnitude else magnitude

/-- The integer part: the value rounded towards zero. -/
def truncate (b : Binary) : Int :=
  let whole : Int := (b.numerator / b.denominator : Nat)
  if b.negative then -whole else whole

/-- The largest integer that is at most the value. -/
def floor (b : Binary) : Int :=
  if b.negative then -(((b.numerator + b.denominator - 1) / b.denominator : Nat) : Int)
  else (b.numerator / b.denominator : Nat)

/-- The smallest integer that is at least the value. -/
def ceil (b : Binary) : Int :=
  if b.negative then -((b.numerator / b.denominator : Nat) : Int)
  else ((b.numerator + b.denominator - 1) / b.denominator : Nat)

def isInteger (b : Binary) : Bool := b.numerator % b.denominator == 0

end Binary

/-- The quotient rounded to the nearest natural number, a half going to the even one. -/
def roundedQuotient (p q : Nat) : Nat :=
  let whole := p / q
  let rest := p % q
  if q < 2 * rest ∨ (2 * rest = q ∧ whole % 2 = 1) then whole + 1 else whole

/-- The exponent `e` with `2 ^ e ≤ p / q < 2 ^ (e + 1)`, for positive `p` and `q`. -/
def binaryExponent (p q : Nat) : Int :=
  let guess := (p.log2 : Int) - q.log2
  if p * twoPower (-guess).toNat < q * twoPower guess.toNat then guess - 1 else guess

/-- The double of a mantissa below `2 ^ 53` on the grid `2 ^ exponent`, or an infinity. -/
def packFloat (negative : Bool) (mantissa : Nat) (exponent : Int) : Float :=
  let sign := if negative then twoPower 63 else 0
  let field := exponent + 1075
  if mantissa < twoPower 52 then Float.ofBits (UInt64.ofNat (sign + mantissa))
  else if 2047 ≤ field then Float.ofBits (UInt64.ofNat (sign + 2047 * twoPower 52))
  else Float.ofBits (UInt64.ofNat (sign + field.toNat * twoPower 52 + (mantissa - twoPower 52)))

/-- The double nearest to `± p / q`, ties to even, with a signed zero below the smallest one. -/
def nearestFloat (negative : Bool) (p q : Nat) : Float :=
  if p = 0 then packFloat negative 0 (-1074)
  else
    let exponent := max (binaryExponent p q - 52) (-1074)
    let mantissa := roundedQuotient (p * twoPower (-exponent).toNat) (q * twoPower exponent.toNat)
    if mantissa = twoPower 53 then packFloat negative (twoPower 52) (exponent + 1)
    else packFloat negative mantissa exponent

/-- The double nearest to an integer. -/
def floatOfInt (n : Int) : Float := nearestFloat (decide (n < 0)) n.natAbs 1

/-- The double nearest to `coefficient · 10 ^ exponent`. Exponents far outside the range of doubles
are answered without computing the power. -/
def floatOfDecimal (negative : Bool) (coefficient : Nat) (exponent : Int) : Float :=
  let leading := exponent + (Nat.toDigits 10 coefficient).length
  if coefficient = 0 ∨ leading < -400 then packFloat negative 0 (-1074)
  else if 400 < leading then packFloat negative (twoPower 52) 2000
  else nearestFloat negative (coefficient * tenPower exponent.toNat) (tenPower (-exponent).toNat)

/-- The nearest multiple of a hundredth, ties to even on the exact value; not a finite number is
left as it is. -/
def roundToHundredths (x : Float) : Float :=
  match Binary.ofFloat? x with
  | none => x
  | some b => nearestFloat b.negative (roundedQuotient (b.numerator * 100) b.denominator) 100

/-- A hundredth of the integer nearest to the hundredfold, ties to even; the hundredfold is a double
itself, and not a finite one is left as it is. -/
def roundHundredfold (x : Float) : Float :=
  let hundredfold := x * 100.0
  match Binary.ofFloat? hundredfold with
  | none => hundredfold
  | some b => nearestFloat b.negative (roundedQuotient b.numerator b.denominator) 100

/-- The length of the vector `(x, y)`, rounded once. An infinite side makes it infinite, even beside
a NaN. -/
def hypotenuse (x y : Float) : Float :=
  match Binary.ofFloat? x, Binary.ofFloat? y with
  | some a, some b =>
    let exponent := min a.exponent b.exponent
    let p := a.mantissa * twoPower (a.exponent - exponent).toNat
    let q := b.mantissa * twoPower (b.exponent - exponent).toNat
    let square := p * p + q * q
    -- enough binary places that the digit after the root's last one decides every rounding
    let places := if 128 ≤ square.log2 then 0 else 64 - square.log2 / 2
    let scaled := square * twoPower (2 * places)
    let root := scaled.sqrt
    let inexact := if root * root = scaled then 0 else 1
    let shift := exponent - places - 1
    nearestFloat false ((2 * root + inexact) * twoPower shift.toNat) (twoPower (-shift).toNat)
  | _, _ => if x.isInf || y.isInf then 1.0 / 0.0 else x + y

end CurveBoard
