import CurveBoard.Formula.Combinatorics
import CurveBoard.Formula.Tree
import CurveBoard.Nested

/-!
# Values of formulas

A formula is evaluated on a number or on an array of numbers; every function works value by value,
and constants go with all values of an array. Nothing is refused: outside its domain a function has
the value NaN or an infinity. Random functions take their numbers from dice, of which every part of
a formula and every place of an array has its own. Only a multifactorial may have no value at all,
if its product has no end; then no formula with it has one.
-/
namespace CurveBoard

/-- A source of random numbers, determined by its seed. -/
structure Dice where
  seed : UInt64
deriving DecidableEq, Repr

namespace Dice

/-- Scatters neighbouring seeds over all words. -/
def scatter (z : UInt64) : UInt64 :=
  let z := (z ^^^ (z >>> 30)) * 0xBF58476D1CE4E5B9
  let z := (z ^^^ (z >>> 27)) * 0x94D049BB133111EB
  z ^^^ (z >>> 31)

/-- The dice of one of the parts of a whole. -/
def part (dice : Dice) (i : Nat) : Dice :=
  ⟨scatter (dice.seed + 0x9E3779B97F4A7C15 * (UInt64.ofNat i + 1))⟩

/-- A number from zero, which is possible, to one, which is not. -/
def roll (dice : Dice) : Float :=
  Float.ofNat (scatter dice.seed >>> 11).toNat / 9007199254740992.0

/-- One number for every place of an array. -/
def rollAll {α : Type} (dice : Dice) : Nested α → Nested Float
  | .single _ => .single dice.roll
  | .row inner items => .row inner (items.zipIdx.attach.map fun ⟨(item, i), place⟩ =>
      have : item ∈ items := by
        have := List.mem_map_of_mem (f := Prod.fst) place
        simpa using this
      rollAll (dice.part i) item)

end Dice

namespace Ratio

/-- The ratio of an angle, or its hyperbolic counterpart. -/
def direct (hyperbolic : Bool) (ratio : Ratio) (x : Float) : Float :=
  let sine := if hyperbolic then x.sinh else x.sin
  let cosine := if hyperbolic then x.cosh else x.cos
  let tangent := if hyperbolic then x.tanh else x.tan
  match ratio with
  | .sine => sine
  | .cosine => cosine
  | .tangent => tangent
  | .secant => 1.0 / cosine
  | .cosecant => 1.0 / sine
  | .cotangent => 1.0 / tangent

/-- The principal inverse of a ratio. -/
def inverse (hyperbolic : Bool) (ratio : Ratio) (x : Float) : Float :=
  let arcsine (x : Float) := if hyperbolic then x.asinh else x.asin
  let arccosine (x : Float) := if hyperbolic then x.acosh else x.acos
  let arctangent (x : Float) := if hyperbolic then x.atanh else x.atan
  match ratio with
  | .sine => arcsine x
  | .cosine => arccosine x
  | .tangent => arctangent x
  | .secant => arccosine (1.0 / x)
  | .cosecant => arcsine (1.0 / x)
  | .cotangent => arctangent (1.0 / x)

end Ratio

/-- A power with a fixed exponent; squares, roots and reciprocals are computed as such. -/
def fixedPower (exponent base : Float) : Float :=
  if exponent == 2.0 then base * base
  else if exponent == 0.5 then base.sqrt
  else if exponent == -1.0 then 1.0 / base
  else base.pow exponent

/-- Whether one exponent goes with all values of a row of the powers: whether exponents of the given
shape are repeated along the rows, where there is more than one value. -/
def repeatsExponent (base exponent : List Nat) : Bool :=
  let lengths := ((Nested.commonShape? base exponent).getD []).reverse
  let given := exponent.reverse ++ List.replicate base.length 1
  let innermost := ((lengths.zip given).find? fun (length, _) => length != 1).map Prod.snd
  exponent.isEmpty || (!base.isEmpty && base != exponent && innermost.getD 1 == 1)

def powers (base exponent : Nested Float) : Nested Float :=
  if repeatsExponent base.shape exponent.shape then
    Nested.zip (fun x e => fixedPower e x) base exponent
  else Nested.zip Float.pow base exponent

/-- Rounds down to so many decimal places. -/
def chopped (x places : Nested Float) : Nested Float :=
  let scale := powers (.single 10.0) places
  Nested.zip (· / ·) ((Nested.zip (· * ·) x scale).map Float.floor) scale

/-- Random numbers from `low` to `high`, rounded down to so many decimal places. -/
def randomBetween (dice : Dice) (low high places : Nested Float) : Nested Float :=
  let step := powers (.single 10.0) (places.map (- ·))
  let width := Nested.zip (· - ·) (Nested.zip (· + ·) high step) low
  let draws := dice.rollAll (Nested.zip (fun w _ => w) width low)
  chopped (Nested.zip (· + ·) (Nested.zip (· * ·) width draws) low) places

namespace NamedFunction

/-- A function on its arguments; nothing if one of the products it takes has no end. With a count of
arguments that it does not accept it is undefined. -/
def result? (dice : Dice) (f : NamedFunction) (arguments : List (Nested Float)) :
    Option (Nested Float) :=
  match f, arguments with
  | circular inverse hyperbolic ratio, [x] =>
    some (x.map (if inverse then ratio.inverse hyperbolic else ratio.direct hyperbolic))
  | naturalLogarithm, [x] => some (x.map Float.log)
  | decimalLogarithm, [x] => some (x.map Float.log10)
  | exponential, [x] => some (x.map Float.exp)
  | squareRoot, [x] => some (x.map Float.sqrt)
  | absoluteValue, [x] => some (x.map Float.abs)
  | sign, [x] => some (x.map Scalar.sign)
  | power, [base, exponent] => some (powers base exponent)
  | factorial, [x] => x.mapM (multifactorial? · 1.0)
  | factorial, [x, step] => (Nested.zip Prod.mk x step).mapM fun (x, step) => multifactorial? x step
  | binomial, [x, k] => some (Nested.zip CurveBoard.binomial x k)
  | chop, [x] => some (chopped x (.single 0.0))
  | chop, [x, places] => some (chopped x places)
  | random, [low, high] => some (randomBetween dice low high (.single 0.0))
  | random, [low, high, places] => some (randomBetween dice low high places)
  | _, _ => some (.single Scalar.undefined)

/-- The shape of the values of a function on arrays of the given shapes. Of three arrays the second
and the third are combined first. -/
def shapeOfValues (f : NamedFunction) (shapes : List (List Nat)) :
    Except ShapeMismatch (List Nat) :=
  match f, shapes with
  | random, [low, high, places] =>
    match Nested.together high places with
    | .error mismatch => .error mismatch
    | .ok shape => Nested.together shape low
  | random, [low, high] => Nested.together high low
  | _, [shape, shape'] => Nested.together shape shape'
  | _, shape :: _ => .ok shape
  | _, [] => .ok []

end NamedFunction

namespace Operation

def apply (operation : Operation) (left right : Nested Float) : Nested Float :=
  match operation with
  | add => Nested.zip (· + ·) left right
  | subtract => Nested.zip (· - ·) left right
  | multiply => Nested.zip (· * ·) left right
  | divide => Nested.zip (· / ·) left right
  | raise => powers left right

end Operation

namespace Tree

mutual
/-- The value of a tree where its variable has the given value; nothing if a product in it has no
end. The sides of an operation roll the dice that the arguments of a call would roll. -/
def evaluate? (dice : Dice) (input : Nested Float) : Tree → Option (Nested Float)
  | number value => some (.single value)
  | constant c => some (.single c.value)
  | free _ => some input
  | signed negative operand =>
    (operand.evaluate? dice input).map fun value => if negative then value.map (- ·) else value
  | binary operation left right =>
    (left.evaluate? ((dice.part 1).part 0) input).bind fun first =>
      (right.evaluate? (((dice.part 1).part 1).part 0) input).map fun second =>
        operation.apply first second
  | call f arguments => (evaluateAll? (dice.part 1) input arguments).bind (f.result? (dice.part 0))

def evaluateAll? (dice : Dice) (input : Nested Float) : List Tree → Option (List (Nested Float))
  | [] => some []
  | t :: rest =>
    (t.evaluate? (dice.part 0) input).bind fun value =>
      (evaluateAll? (dice.part 1) input rest).map (value :: ·)
end

end Tree

end CurveBoard
