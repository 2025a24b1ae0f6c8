import CurveBoard.Scalar

/-!
# Factorials and binomial coefficients

Both are defined for all numbers by the products that define them for whole ones. The multifactorial
of `x` with step `n` is the product of the positive numbers among `x`, `x - n`, `x - 2n`, …; the
binomial coefficient of `x` and `k` is the product of `(x - i) / (k - i)` for the natural numbers
`i` below `k`. A product stops early when it has become zero or infinite, since it stays so.

Over numbers of limited precision a small step may leave the factor as it is. A product that does
not change either, but is neither zero nor infinite, then has no end: the multiplication goes on for
ever.
-/
namespace CurveBoard

open Scalar

variable {α : Type} [Scalar α]

/-- A falling product under way: the product so far and the factor that comes next. -/
structure FallingProduct (α : Type) where
  product : α
  factor : α

namespace FallingProduct

/-- Whether a product no longer changes. -/
def saturated (x : α) : Bool := isInfinite x || x == 0.0

/-- The next state, as long as the factor is positive and the product can change. -/
def next? (step : α) (p : FallingProduct α) : Option (FallingProduct α) :=
  if 0.0 < p.factor then
    let product := p.product * p.factor
    if saturated product then none else some ⟨product, p.factor - step⟩
  else none

/-- The product at the end. -/
def final (p : FallingProduct α) : α :=
  if 0.0 < p.factor then p.product * p.factor else p.product

/-- Multiplies until the end; a product without an end has no value. -/
def run (step : α) (p : FallingProduct α) : Option α :=
  match p.next? step with
  | none => some p.final
  | some next => next |>.run step
partial_fixpoint

end FallingProduct

/-- The multifactorial, NaN where it is not defined; nothing if its product has no end. -/
def multifactorial? (x step : α) : Option α :=
  if isNaN x || isNaN step || decide (x < 0.0) || decide (step ≤ 0.0) then some undefined
  else if x == 0.0 then some 1.0
  else if isInfinite x then some x
  else FallingProduct.run step ⟨x, x - step⟩

/-- The factors of a binomial coefficient from the `i`-th on, `count` of them. -/
def binomialFrom (x k : α) : (count i : Nat) → (product : α) → α
  | 0, _, product => product
  | count + 1, i, product =>
    let product := product * ((x - ofNat i) / (k - ofNat i))
    if !isFinite product || product == 0.0 then product else binomialFrom x k count (i + 1) product

/-- The binomial coefficient, NaN where it has no value. -/
def binomial (x k : α) : α :=
  if isNaN x || !isFinite k then undefined else binomialFrom x k (ceil k).toNat 0 1.0

end CurveBoard
