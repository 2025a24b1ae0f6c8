import CurveBoard.Algebra.Elementary
import CurveBoard.Formula.NamedFunction

/-!
# Complex numbers in binary

Elementary functions of complex arguments, to so many binary digits. A real argument for which a
function is real gives a result whose imaginary part is exactly zero; on a branch cut the value is
the one that the principal logarithm and square root give. Functions have no value at their poles.
-/
namespace CurveBoard

structure ComplexFloat where
  re : BigFloat
  im : BigFloat
deriving DecidableEq, Repr

namespace ComplexFloat

open BigFloat (spare)

def ofReal (x : BigFloat) : ComplexFloat := ⟨x, 0⟩

instance {n : Nat} : OfNat ComplexFloat n where
  ofNat := ofReal (BigFloat.ofInt n)

def imaginaryUnit : ComplexFloat := ⟨0, 1⟩

def isReal (z : ComplexFloat) : Bool := z.im.isZero

def isZero (z : ComplexFloat) : Bool := z.re.isZero && z.im.isZero

instance : Neg ComplexFloat where
  neg z := ⟨-z.re, -z.im⟩

instance : Add ComplexFloat where
  add z w := ⟨z.re + w.re, z.im + w.im⟩

instance : Sub ComplexFloat where
  sub z w := ⟨z.re - w.re, z.im - w.im⟩

instance : Mul ComplexFloat where
  mul z w := ⟨z.re * w.re - z.im * w.im, z.re * w.im + z.im * w.re⟩

def round (bits : Nat) (z : ComplexFloat) : ComplexFloat := ⟨z.re.round bits, z.im.round bits⟩

def scale (x : BigFloat) (z : ComplexFloat) : ComplexFloat := ⟨x * z.re, x * z.im⟩

def halved (z : ComplexFloat) : ComplexFloat := ⟨z.re.halved 1, z.im.halved 1⟩

/-- The product with the imaginary unit. -/
def turned (z : ComplexFloat) : ComplexFloat := ⟨-z.im, z.re⟩

/-- The square of the modulus. -/
def norm (z : ComplexFloat) : BigFloat := z.re * z.re + z.im * z.im

def modulus (bits : Nat) (z : ComplexFloat) : BigFloat :=
  if z.isReal then z.re.magnitude.round bits else z.norm.root bits

def quotient? (bits : Nat) (z w : ComplexFloat) : Option ComplexFloat :=
  if w.isZero then none
  else if w.isReal then some ⟨z.re.quotient bits w.re, z.im.quotient bits w.re⟩
  else
    let top := z * ⟨w.re, -w.im⟩
    some ⟨top.re.quotient bits w.norm, top.im.quotient bits w.norm⟩

def reciprocal? (bits : Nat) (z : ComplexFloat) : Option ComplexFloat := quotient? bits 1 z

/-- The principal square root. -/
def sqrt (bits : Nat) (z : ComplexFloat) : ComplexFloat :=
  if z.isReal then
    let root := z.re.root bits
    if z.re.isNegative then ⟨0, root⟩ else ⟨root, 0⟩
  else
    let wide := bits + spare
    let large := ((z.modulus wide + z.re.magnitude).halved 1).root wide
    let small := (z.im.magnitude.quotient wide large).halved 1
    let signed (x : BigFloat) : BigFloat := if z.im.isNegative then -x else x
    round bits (if z.re.isNegative then ⟨small, signed large⟩ else ⟨large, signed small⟩)

def log? (bits : Nat) (z : ComplexFloat) : Option ComplexFloat :=
  if z.isZero then none
  else if z.isReal then some ⟨z.re.logMagnitude bits, BigFloat.angle bits z.re z.im⟩
  else some ⟨(z.norm.logMagnitude bits).halved 1, BigFloat.angle bits z.re z.im⟩

def exp? (bits : Nat) (z : ComplexFloat) : Option ComplexFloat :=
  (z.re.exp? (bits + spare)).map fun size =>
    let (s, c) := z.im.sineCosine (bits + spare)
    round bits ⟨size * c, size * s⟩

/-- A power with a natural exponent, by repeated squaring. -/
def natPower (bits : Nat) (z : ComplexFloat) (n : Nat) : ComplexFloat :=
  let wide := bits + spare + n.log2
  let rec run (fuel n : Nat) (square product : ComplexFloat) : ComplexFloat :=
    match fuel with
    | 0 => product
    | fuel + 1 =>
      if n = 0 then product
      else run fuel (n / 2) (round wide (square * square))
        (if n % 2 = 1 then round wide (product * square) else product)
  round bits (run (n.log2 + 1) n z 1)

/-- A power with an integer exponent. -/
def intPower? (bits : Nat) (z : ComplexFloat) (n : Int) : Option ComplexFloat :=
  let power := natPower (bits + spare) z n.natAbs
  if 0 ≤ n then some (round bits power) else reciprocal? bits power

/-- The principal power. Whole exponents multiply, and those that end in a half take a square root
first. -/
def power? (bits : Nat) (z w : ComplexFloat) : Option ComplexFloat :=
  if w.isReal && w.re.isInteger then intPower? bits z w.re.floor
  else if w.isReal && (w.re.halved (-1)).isInteger then
    intPower? bits (sqrt (bits + spare) z) (w.re.halved (-1)).floor
  else if z.isZero then if w.re.isPositive then some 0 else none
  else
    let wide := bits + 2 * spare + w.re.size.toNat + w.im.size.toNat
    (log? wide z).bind fun l => exp? bits (round wide (w * l))

/-! ### Ratios of an angle -/

/-- The hyperbolic sine and cosine. -/
def hyperbolic? (bits : Nat) (x : BigFloat) : Option (BigFloat × BigFloat) :=
  if x.isZero then some (0, 1)
  else if x.isTiny bits then some (x.round bits, 1)
  else
    let wide := bits + 2 * spare + (-x.size).toNat
    match x.exp? wide, (-x).exp? wide with
    | some up, some down =>
      some (((up - down).halved 1).round bits, ((up + down).halved 1).round bits)
    | _, _ => none

/-- The sine and cosine. -/
def circular? (bits : Nat) (z : ComplexFloat) : Option (ComplexFloat × ComplexFloat) :=
  let (s, c) := z.re.sineCosine bits
  if z.isReal then some (ofReal s, ofReal c)
  else (hyperbolic? bits z.im).map fun (sh, ch) =>
    (round bits ⟨s * ch, c * sh⟩, round bits ⟨c * ch, -(s * sh)⟩)

/-- The sine and cosine, or their hyperbolic counterparts. -/
def sineCosine? (hyperbolic : Bool) (bits : Nat) (z : ComplexFloat) :
    Option (ComplexFloat × ComplexFloat) :=
  if !hyperbolic then circular? bits z
  else if z.isReal then (hyperbolic? bits z.re).map fun (s, c) => (ofReal s, ofReal c)
  else (circular? bits z.turned).map fun (s, c) => (-s.turned, c)

/-- A ratio of an angle, or its hyperbolic counterpart. A reciprocal is taken of the rounded
ratio. -/
def direct? (hyperbolic : Bool) (bits : Nat) (ratio : Ratio) (z : ComplexFloat) :
    Option ComplexFloat :=
  (sineCosine? hyperbolic (bits + spare) z).bind fun (s, c) =>
    match ratio with
    | .sine => some (round bits s)
    | .cosine => some (round bits c)
    | .tangent => quotient? bits s c
    | .secant => reciprocal? bits (round bits c)
    | .cosecant => reciprocal? bits (round bits s)
    | .cotangent => (quotient? bits s c).bind (reciprocal? bits)

/-- The inverse hyperbolic cosine of a number from one on. -/
def realArccosh (bits : Nat) (x : BigFloat) : BigFloat :=
  let beyond := x - 1
  if beyond.isZero then 0
  else if beyond.isTiny bits then (beyond.halved (-1)).root bits
  else
    let wide := bits + 2 * spare + (-beyond.size).toNat
    (x + (beyond * (x + 1)).root wide).round wide |>.logMagnitude bits

def realArcsinh (bits : Nat) (x : BigFloat) : BigFloat :=
  if x.isZero then 0
  else if x.isTiny bits then x.round bits
  else
    let wide := bits + 2 * spare + (2 * -x.size).toNat
    let size := ((x.magnitude + (x * x + 1).root wide).round wide).logMagnitude bits
    if x.isNegative then -size else size

/-- Minus the imaginary unit times the logarithm of `i z + √(1 - z²)`. -/
def arcsineByLogarithm? (bits : Nat) (z : ComplexFloat) : Option ComplexFloat :=
  let wide := bits + 4 * spare
  (log? bits (round wide (z.turned + sqrt wide (1 - z * z)))).map fun l => -l.turned

def arcsine? (bits : Nat) (z : ComplexFloat) : Option ComplexFloat :=
  if !z.isReal then arcsineByLogarithm? bits z
  else
    let x := z.re
    let right := (BigFloat.pi bits).halved 1
    let signed (y : BigFloat) : BigFloat := if x.isNegative then -y else y
    let inside := (1 - x.magnitude) * (1 + x.magnitude)
    if inside.isZero then some (ofReal (signed right))
    else if inside.isPositive then
      let wide := bits + spare
      some (ofReal ((x.quotient wide (inside.root wide)).arctan bits))
    else some ⟨signed right, signed (-realArccosh bits x.magnitude)⟩

def arccosine? (bits : Nat) (z : ComplexFloat) : Option ComplexFloat :=
  let wide := bits + spare
  if z.isReal && !BigFloat.isLess 1 z.re.magnitude then
    if z.re == -1 then some (ofReal (BigFloat.pi bits))
    else
      let half := (((1 - z.re).quotient wide (1 + z.re)).root wide).arctan wide
      some (ofReal ((half.halved (-1)).round bits))
  else (arcsine? wide z).map fun a => round bits (ofReal ((BigFloat.pi wide).halved 1) - a)

def arctangent? (bits : Nat) (z : ComplexFloat) : Option ComplexFloat :=
  if z.isReal then some (ofReal (z.re.arctan bits))
  else
    let wide := bits + spare
    match log? wide (1 - z.turned), log? wide (1 + z.turned) with
    | some a, some b => some (round bits (a - b).turned.halved)
    | _, _ => none

def arcsinh? (bits : Nat) (z : ComplexFloat) : Option ComplexFloat :=
  if z.isReal then some (ofReal (realArcsinh bits z.re))
  else (arcsine? bits (-z.turned)).map turned

def arccosh? (bits : Nat) (z : ComplexFloat) : Option ComplexFloat :=
  if z.isReal && !BigFloat.isLess z.re 1 then some (ofReal (realArccosh bits z.re))
  else (arccosine? bits z).map fun a => if a.im.isPositive then -a.turned else a.turned

def arctanh? (bits : Nat) (z : ComplexFloat) : Option ComplexFloat :=
  if z.isZero then some 0
  else if z.isReal && z.re.isTiny bits then some (round bits z)
  else
    let wide := bits + 2 * spare + (if z.isReal then (-z.re.size).toNat else 0)
    match log? wide (1 + z), log? wide (1 - z) with
    | some a, some b => some (round bits (a - b).halved)
    | _, _ => none

/-- The principal inverse of a ratio, or of its hyperbolic counterpart. Where it is the inverse of
another ratio at the reciprocal, the reciprocal is rounded. -/
def inverse? (hyperbolic : Bool) (bits : Nat) (ratio : Ratio) (z : ComplexFloat) :
    Option ComplexFloat :=
  let arcsine := if hyperbolic then arcsinh? bits else arcsine? bits
  let arccosine := if hyperbolic then arccosh? bits else arccosine? bits
  let arctangent := if hyperbolic then arctanh? bits else arctangent? bits
  match ratio with
  | .sine => arcsine z
  | .cosine => arccosine z
  | .tangent => arctangent z
  | .secant => (reciprocal? bits z).bind arccosine
  | .cosecant => (reciprocal? bits z).bind arcsine
  | .cotangent => (reciprocal? bits z).bind arctangent

/-! ### The Gamma function -/

/-- One round of the recurrence of the tangent numbers, on those from the `k`-th on. -/
def tangentRound (k : Nat) (numbers : List Nat) : List Nat :=
  let rec run (j previous : Nat) : List Nat → List Nat
    | [] => []
    | t :: rest =>
      let next := (j - k) * previous + (j - k + 2) * t
      next :: run (j + 1) next rest
  numbers.take (k - 1) ++ run k 0 (numbers.drop (k - 1))

/-- The first tangent numbers, the coefficients of the tangent's series times factorials. -/
def tangentNumbers (count : Nat) : List Nat :=
  let first := (List.range count).map fun k =>
    (List.range k).foldl (fun product i => product * (i + 1)) 1
  (List.range (count - 1)).foldl (fun numbers i => tangentRound (i + 2) numbers) first

/-- The Bernoulli numbers with even indices from the second on. -/
def bernoulliNumbers (count : Nat) : List Rat :=
  (tangentNumbers count).zipIdx.map fun (t, i) =>
    let power := twoPower (2 * (i + 1))
    let size := mkRat (2 * (i + 1) * t : Nat) (power * (power - 1))
    if i % 2 = 0 then size else -size

/-- The logarithm of the Gamma function by Stirling's series, far to the right. -/
def logGamma? (bits : Nat) (z : ComplexFloat) : Option ComplexFloat :=
  match log? bits z, reciprocal? bits z with
  | some l, some inverse =>
    let square := round bits (inverse * inverse)
    let half : ComplexFloat := ⟨⟨1, -1⟩, 0⟩
    let circle := ((BigFloat.pi bits).halved (-1)).logMagnitude bits
    let (tail, _) := (bernoulliNumbers (bits / 8 + 4)).zipIdx.foldl (fun (total, power) (b, i) =>
        let k := 2 * (i + 1)
        (total + round bits (scale (BigFloat.ofRat bits (b / ((k * (k - 1) : Nat) : Rat))) power),
          round bits (power * square)))
      ((0 : ComplexFloat), inverse)
    some (round bits ((z - half) * l - z + ofReal (circle.halved 1) + tail))
  | _, _ => none

/-- The Gamma function to the right of the imaginary axis. -/
def rightGamma? (bits : Nat) (z : ComplexFloat) : Option ComplexFloat :=
  let wide := bits + 4 * spare + z.re.size.toNat + z.im.size.toNat
  let far : Int := bits / 3 + 16
  let steps := (far - z.re.floor).toNat
  let product := (List.range steps).foldl (fun (product : ComplexFloat) (k : Nat) =>
    round wide (product * (z + ofReal (BigFloat.ofInt k)))) 1
  ((logGamma? wide (z + ofReal (BigFloat.ofInt steps))).bind (exp? wide)).bind fun g =>
    quotient? bits g product

/-- The Gamma function; it has no value at zero and the negative integers. -/
def gamma? (bits : Nat) (z : ComplexFloat) : Option ComplexFloat :=
  if BigFloat.isLess z.re ⟨1, -1⟩ then
    let wide := bits + 2 * spare
    let circle := BigFloat.pi (wide + z.re.size.toNat)
    match circular? wide (scale circle z), rightGamma? wide (1 - z) with
    | some (s, _), some g =>
      if z.isReal && z.re.isInteger then none else quotient? bits (ofReal circle) (s * g)
    | _, _ => none
  else rightGamma? bits z

end ComplexFloat

end CurveBoard
