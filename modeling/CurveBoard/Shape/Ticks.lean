import CurveBoard.Shape.Fault

/-!
# Ticks

The marks along an axis stand at the multiples of a step. Their labels have as many decimals as the
step needs, without zeros at the end.
-/
namespace CurveBoard

open Scalar

variable {α : Type} [Geometry α]

/-- How many decimals the multiples of a step are written with. -/
def tickDecimals (step : α) : Except ArithmeticFault Nat :=
  (Geometry.logarithm step).bind fun logarithm =>
    (toInteger floor (1.1 - logarithm)).map fun whole => (whole + 2).toNat

/-- Removes zeros at the end of a fraction, and the point if nothing is left of it. -/
def withoutIdleZeros (text : List Char) : List Char :=
  if text.contains '.' then
    ((text.reverse.dropWhile (· == '0')).dropWhile (· == '.')).reverse
  else text

/-- The label of a tick whose number has been written; zero has no sign. -/
def tickLabel (written : String) : String :=
  let text := withoutIdleZeros written.toList
  String.ofList (if text = "-0".toList || text.isEmpty then ['0'] else text)

/-- The label of a tick. -/
def tickText (value : α) (decimals : Nat) : String := tickLabel (Geometry.fixedText decimals value)

/-- The natural numbers from one to `count`. -/
def upTo (count : Int) : List Nat := List.range' 1 count.toNat

/-- The multiples of a step between two bounds but zero, from zero upwards and then downwards. -/
def multiples (step low high : α) : Except ArithmeticFault (List α) := do
  let up ←
    if 0.0 < high then
      (quotient high step).bind fun q => (toInteger truncate (q + 1e-9)).map fun count =>
        (upTo count).map fun k => ofNat k * step
    else pure []
  let down ←
    if low < 0.0 then
      (quotient (-low) step).bind fun q => (toInteger truncate (q + 1e-9)).map fun count =>
        (upTo count).map fun (k : Nat) => ofInt (-(k : Int)) * step
    else pure []
  return up ++ down

/-- The places at multiples of a step after a start, in the direction of a sign, as long as
`inside`. -/
def marksBeside (start step room : α) (move : α → α → α) (inside : α → Bool) :
    Except ArithmeticFault (List α) :=
  (quotient room step).bind fun q => (toInteger truncate q).map fun count =>
    ((upTo (count + 1)).map fun k => move start (ofNat k * step)).filter inside

end CurveBoard
