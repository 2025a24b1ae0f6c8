import CurveBoard.Decimal.Binary

/-!
# Decimal numerals for doubles

Three rules choose the digits of a finite double: the fewest digits that read back as the same
double (`shortestDecimal`), a fixed count of significant digits (`significantDecimal`), and a fixed
count of places after the point (`fixedText`). The last two round the exact binary value, a half
going to the even digit. A `NumeralStyle` then says which of the chosen decimals are written with an
exponent.
-/
namespace CurveBoard

/-- The number `coefficient · 10 ^ exponent`. -/
structure Decimal where
  coefficient : Nat
  exponent : Int
deriving DecidableEq, Repr

/-- How many decimal digits a natural number has; zero has one. -/
def digitCount (n : Nat) : Nat :=
  if n < 10 then 1 else digitCount (n / 10) + 1
termination_by n
decreasing_by omega

/-- The exponent `x` with `10 ^ x ≤ p / q < 10 ^ (x + 1)`, for positive `p` and `q`. -/
def decimalExponent (p q : Nat) : Int :=
  if q ≤ p then (digitCount (p / q) : Int) - 1 else -(digitCount ((q - 1) / p) : Int)

/-- The grid `10 ^ exponent` as a fraction. -/
def decimalGrid (exponent : Int) : Nat × Nat :=
  (tenPower exponent.toNat, tenPower (-exponent).toNat)

/-- The decimal with `count` significant digits nearest to `p / q`, a half going to the even
digit. -/
def significantDecimal (count : Nat) (p q : Nat) : Decimal :=
  let grid := decimalExponent p q - (count : Int) + 1
  let (up, down) := decimalGrid grid
  ⟨roundedQuotient (p * down) (q * up), grid⟩

namespace Binary

/-- The reals that round to `b`, in quarters of its last place, and whether the ends belong to
them. -/
def neighbourhood (b : Binary) : Nat × Nat × Bool :=
  let below := if b.mantissa = twoPower 52 ∧ -1074 < b.exponent then 1 else 2
  (4 * b.mantissa - below, 4 * b.mantissa + 2, b.mantissa % 2 == 0)

/-- Of the two decimals on the grid `10 ^ grid` beside `b`, the nearest that reads back as `b`. -/
def nearestOnGrid? (b : Binary) (grid : Int) : Option Decimal :=
  let (up, down) := decimalGrid grid
  let quarter := b.exponent - 2
  let unit := twoPower quarter.toNat * down
  let step := twoPower (-quarter).toNat * up
  let (low, high, closed) := b.neighbourhood
  let value := 4 * b.mantissa * unit
  let lower := value / step
  let within (c : Nat) : Bool :=
    if closed then decide (low * unit ≤ c * step ∧ c * step ≤ high * unit)
    else decide (low * unit < c * step ∧ c * step < high * unit)
  match within lower, within (lower + 1) with
  | true, true =>
    let left := value - lower * step
    let right := (lower + 1) * step - value
    some ⟨if left < right ∨ (left = right ∧ lower % 2 = 0) then lower else lower + 1, grid⟩
  | true, false => some ⟨lower, grid⟩
  | false, true => some ⟨lower + 1, grid⟩
  | false, false => none

/-- The decimal with the fewest digits that reads back as `b`, and the nearest of those. Seventeen
digits always suffice. -/
def shortestDecimal (b : Binary) : Decimal :=
  if b.mantissa = 0 then ⟨0, 0⟩
  else
    let leading := decimalExponent b.numerator b.denominator
    let grids := (List.range 17).map fun (n : Nat) => leading - (n : Int)
    (grids.findSome? b.nearestOnGrid?).getD (significantDecimal 17 b.numerator b.denominator)

end Binary

/-- Removes zeros from the end. -/
def dropTrailingZeros (digits : List Char) : List Char :=
  (digits.reverse.dropWhile (· == '0')).reverse

namespace Decimal

/-- The digits of the coefficient without zeros at the end, and the exponent of the first digit. -/
def leadingForm (d : Decimal) : List Char × Int :=
  if d.coefficient = 0 then (['0'], 0)
  else
    let digits := Nat.toDigits 10 d.coefficient
    (dropTrailingZeros digits, d.exponent + digits.length - 1)

end Decimal

/-- Which decimals are written with an exponent, and whether a whole number shows its point. -/
structure NumeralStyle where
  /-- The smallest exponent of the first digit that is written positionally. -/
  lowest : Int
  /-- The smallest exponent of the first digit that is too large for that. -/
  limit : Int
  pointed : Bool
deriving DecidableEq, Repr

/-- Digits with the point after the place of exponent zero. -/
def positionalText (pointed : Bool) (digits : List Char) (leading : Int) : List Char :=
  if leading < 0 then
    ['0', '.'] ++ List.replicate (-leading - 1).toNat '0' ++ digits
  else
    let places := leading.toNat + 1
    let whole := digits.take places ++ List.replicate (places - digits.length) '0'
    let fraction := digits.drop places
    if fraction.isEmpty then whole ++ (if pointed then ['.', '0'] else [])
    else whole ++ '.' :: fraction

/-- An exponent has a sign and at least two digits. -/
def exponentText (exponent : Int) : List Char :=
  let digits := Nat.toDigits 10 exponent.natAbs
  'e' :: (if exponent < 0 then '-' else '+') :: (List.replicate (2 - digits.length) '0' ++ digits)

/-- One digit, a point and the other digits if there are any, and the exponent. -/
def scientificText (digits : List Char) (leading : Int) : List Char :=
  (match digits with
    | [] => []
    | [d] => [d]
    | d :: rest => d :: '.' :: rest) ++ exponentText leading

namespace NumeralStyle

def write (style : NumeralStyle) (d : Decimal) : List Char :=
  let (digits, leading) := d.leadingForm
  if style.lowest ≤ leading ∧ leading < style.limit then
    positionalText style.pointed digits leading
  else scientificText digits leading

/-- Numbers in messages: positional from `0.0001` to below `10 ^ 16`, whole numbers with `.0`. -/
def plain : NumeralStyle := ⟨-4, 16, true⟩

/-- Parts of a complex number: as `plain`, whole numbers without a point. -/
def complexPart : NumeralStyle := ⟨-4, 16, false⟩

/-- Rounded numbers: positional while the digits reach the point. -/
def general (count : Nat) : NumeralStyle := ⟨-4, count, false⟩

end NumeralStyle

/-- The text of a double, `digits` giving the magnitude of a finite one. -/
def signedText (x : Float) (digits : Binary → List Char) : String :=
  match Binary.ofFloat? x with
  | some b => String.ofList (if b.negative then '-' :: digits b else digits b)
  | none => if x.isNaN then "nan" else if x < 0.0 then "-inf" else "inf"

/-- The shortest text that reads back, such as `5.0`, `1e-07` or `1e+16`. -/
def floatText (x : Float) : String :=
  signedText x fun b => NumeralStyle.plain.write b.shortestDecimal

/-- As `floatText`, without `.0` after a whole number. -/
def complexPartText (x : Float) : String :=
  signedText x fun b => NumeralStyle.complexPart.write b.shortestDecimal

/-- The shortest text that reads back, never with an exponent. -/
def expandedText (x : Float) : String :=
  signedText x fun b =>
    let (digits, leading) := b.shortestDecimal.leadingForm
    positionalText false digits leading

/-- At most `count` significant digits, zeros at the end removed. -/
def generalText (count : Nat) (x : Float) : String :=
  signedText x fun b =>
    if b.mantissa = 0 then ['0']
    else (NumeralStyle.general count).write (significantDecimal count b.numerator b.denominator)

/-- A natural number of units `10 ^ -places`, with all its places written. -/
def fixedDigits (places : Nat) (units : Nat) : List Char :=
  let digits := Nat.toDigits 10 units
  let padded := List.replicate (places + 1 - digits.length) '0' ++ digits
  let whole := padded.take (padded.length - places)
  if places = 0 then whole else whole ++ '.' :: padded.drop (padded.length - places)

/-- Exactly `places` digits after the point. -/
def fixedText (places : Nat) (x : Float) : String :=
  signedText x fun b =>
    fixedDigits places (roundedQuotient (b.numerator * tenPower places) b.denominator)

end CurveBoard
