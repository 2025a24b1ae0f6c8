import CurveBoard.Algebra.BigFloat

/-!
# Elementary functions to any precision

Every function takes the count of binary digits that are wanted. The argument is brought near zero
by an identity of the function and its power series is added up on a fixed grid with spare places,
more of them the smaller the result is. A series ends where a term vanishes on the grid; each has at
most as many terms as the grid has places.
-/
namespace CurveBoard

namespace BigFloat

/-- Places of the grid beyond the digits that are wanted. -/
def spare : Nat := 24

/-- The sum of the terms of a series, where `next` gives the term after the `k`-th. -/
def seriesFrom (next : Nat → Int → Int) : (fuel k : Nat) → (term total : Int) → Int
  | 0, _, _, total => total
  | fuel + 1, k, term, total =>
    if term = 0 then total else seriesFrom next fuel (k + 1) (next k term) (total + term)

/-- The sum of `first · ratio(0) · … · ratio(k - 1)` over `k`. -/
def series (places : Nat) (next : Nat → Int → Int) (first : Int) : Int :=
  seriesFrom next (places + spare) 0 first 0

/-- The sum of `(± 1) ^ k · t ^ (2k + 1) / (2k + 1)`, where `step` multiplies by the square of
`t`. -/
def oddSeriesFrom (alternating : Bool) (step : Int → Int) :
    (fuel k : Nat) → (power total : Int) → Int
  | 0, _, _, total => total
  | fuel + 1, k, power, total =>
    if power = 0 then total
    else
      let term := power / (2 * k + 1 : Nat)
      let signed := if alternating && k % 2 == 1 then -term else term
      oddSeriesFrom alternating step fuel (k + 1) (step power) (total + signed)

/-- The product of two numbers of the grid. -/
def gridProduct (places : Nat) (a b : Int) : Int := a * b / (twoPower places : Int)

/-- The quotient of two numbers of the grid. -/
def gridQuotient (places : Nat) (a b : Int) : Int := a * (twoPower places : Int) / b

/-- The area tangent (or the arc tangent) of one divided by a natural number, on the grid. -/
def gridInverse (alternating : Bool) (places n : Nat) : Int :=
  oddSeriesFrom alternating (· / (n * n : Nat)) (places + spare) 0 ((twoPower places : Int) / n) 0

/-- The circle number on the grid. -/
def gridPi (places : Nat) : Int :=
  let fine := places + spare
  (16 * gridInverse true fine 5 - 4 * gridInverse true fine 239) / (twoPower spare : Int)

/-- The natural logarithm of two on the grid. -/
def gridLogTwo (places : Nat) : Int :=
  let fine := places + spare
  2 * gridInverse false fine 3 / (twoPower spare : Int)

def pi (bits : Nat) : BigFloat := (ofFixed (bits + spare) (gridPi (bits + spare))).round bits

/-- Whether a number is so close to zero that of a power series in it the first term is enough. -/
def isTiny (bits : Nat) (x : BigFloat) : Bool := decide (x.size < -((bits + spare : Nat) : Int))

/-- Arguments of the exponential function have fewer binary digits before the point. -/
def greatestExponentSize : Int := 100000

/-- The exponential function; no value where its size would not fit any paper. -/
def exp? (bits : Nat) (x : BigFloat) : Option BigFloat :=
  if x.isZero || isTiny bits x then some 1
  else if greatestExponentSize < x.size then none
  else
    let places := bits + spare + x.size.toNat
    let wide := places + x.size.toNat
    let two := gridLogTwo wide
    let argument := x.fixed wide
    let whole := argument / two
    let rest := (argument - whole * two) / (twoPower x.size.toNat : Int)
    let total := series places (fun k term => gridProduct places term rest / ((k : Int) + 1))
      (twoPower places : Int)
    some ((ofFixed places total).halved (-whole) |>.round bits)

/-- The natural logarithm of the magnitude of a number other than zero. -/
def logMagnitude (bits : Nat) (x : BigFloat) : BigFloat :=
  let x := x.magnitude
  let beyond := x - 1
  if beyond.isZero then 0
  else if isTiny bits beyond then beyond.round bits
  else
    let places := bits + spare + (-beyond.size).toNat + x.size.natAbs.log2
    -- a mantissa from about 0.7 to 1.4
    let high := x.halved x.size
    let (mantissa, exponent) := if isLess high ⟨181, -8⟩ then (high.halved (-1), x.size - 1)
      else (high, x.size)
    let one : Int := twoPower places
    let m := mantissa.fixed places
    let t := gridQuotient places (m - one) (m + one)
    let square := gridProduct places t t
    let small := 2 * oddSeriesFrom false (gridProduct places · square) (places + spare) 0 t 0
    (ofFixed places (small + exponent * gridLogTwo places)).round bits

/-- The sine and cosine of a number of the grid that is not far from zero. -/
def gridSineCosine (places : Nat) (r : Int) : Int × Int :=
  let square := gridProduct places r r
  let next (shift k : Nat) (term : Int) : Int :=
    -(gridProduct places term square) / (((2 * k + 1 + shift) * (2 * k + 2 + shift) : Nat) : Int)
  (series places (next 1) r, series places (next 0) (twoPower places : Int))

/-- The sine and cosine of an angle. -/
def sineCosine (bits : Nat) (x : BigFloat) : BigFloat × BigFloat :=
  if x.isZero then (0, 1)
  else if isTiny bits x then (x.round bits, 1)
  else
    let within (places : Nat) : Int × Int × Int :=
      let wide := places + x.size.toNat
      let quarter := gridPi wide
      -- the nearest multiple of a right angle
      let turns := (4 * x.fixed wide + quarter) / (2 * quarter)
      let rest := (2 * x.fixed wide - turns * quarter) / (2 * (twoPower x.size.toNat : Int))
      (turns, rest, (places : Int) - rest.natAbs.log2)
    let first := bits + spare + (-x.size).toNat
    let (_, _, lost) := within first
    let places := first + lost.toNat
    let (turns, rest, _) := within places
    let (s, c) := gridSineCosine places rest
    let number (n : Int) : BigFloat := (ofFixed places n).round bits
    match turns % 4 with
    | 0 => (number s, number c)
    | 1 => (number c, number (-s))
    | 2 => (number (-s), number (-c))
    | _ => (number (-c), number s)

/-- The arc tangent of a number at most one in magnitude. -/
def arctanWithin (bits : Nat) (x : BigFloat) : BigFloat :=
  if isTiny bits x then x.round bits
  else
    let places := bits + spare + (-x.size).toNat
    let one : Int := twoPower places
    -- half of the angle, three times
    let half (t : Int) : Int :=
      let root : Int := ((one * one + t * t).natAbs.sqrt : Nat)
      gridQuotient places t (one + root)
    let t := half (half (half (x.fixed places)))
    let square := gridProduct places t t
    let total := oddSeriesFrom true (gridProduct places · square) (places + spare) 0 t 0
    (ofFixed places (8 * total)).round bits

def arctan (bits : Nat) (x : BigFloat) : BigFloat :=
  if x.isZero then 0
  else if isLess 1 x.magnitude then
    let inner := arctanWithin (bits + spare) (quotient (bits + spare) 1 x.magnitude)
    let angle := ((pi (bits + spare)).halved 1 - inner).round bits
    if x.isNegative then -angle else angle
  else if x.isNegative then -arctanWithin bits (-x)
  else arctanWithin bits x

/-- The angle of the point `(x, y)`, from `-π`, which is not reached, to `π`. -/
def angle (bits : Nat) (x y : BigFloat) : BigFloat :=
  let wide := bits + spare
  if y.isZero then if x.isNegative then pi bits else 0
  else if x.isZero then
    let right := (pi bits).halved 1
    if y.isNegative then -right else right
  else
    let slope := arctan wide (quotient wide y x)
    if x.isPositive then slope.round bits
    else if y.isNegative then (slope - pi wide).round bits
    else (slope + pi wide).round bits

end BigFloat

end CurveBoard
