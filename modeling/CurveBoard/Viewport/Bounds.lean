import CurveBoard.Scalar

/-!
# Bounds

A rectangle with sides along the axes, given by the ends of its two ranges. Its edges belong to it.
-/
namespace CurveBoard

structure Bounds (α : Type) where
  xMin : α
  xMax : α
  yMin : α
  yMax : α
deriving Repr

namespace Bounds

variable {α : Type} [Scalar α]

def contains (b : Bounds α) (p : Point α) : Bool :=
  decide (b.xMin ≤ p.1) && decide (p.1 ≤ b.xMax) &&
    (decide (b.yMin ≤ p.2) && decide (p.2 ≤ b.yMax))

def containsBounds (b other : Bounds α) : Bool :=
  decide (b.xMin ≤ other.xMin) && decide (other.xMax ≤ b.xMax)
    && (decide (b.yMin ≤ other.yMin) && decide (other.yMax ≤ b.yMax))

def xRange (b : Bounds α) : α × α := (b.xMin, b.xMax)

def yRange (b : Bounds α) : α × α := (b.yMin, b.yMax)

/-- Moves every edge outwards. -/
def grown (b : Bounds α) (dx dy : α) : Bounds α :=
  ⟨b.xMin - dx, b.xMax + dx, b.yMin - dy, b.yMax + dy⟩

end Bounds

end CurveBoard
