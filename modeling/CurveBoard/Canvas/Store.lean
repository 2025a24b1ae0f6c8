import CurveBoard.Shape.Primitive
import CurveBoard.Table

/-!
# The plain canvas

A canvas that draws nothing: it keeps the latest primitive under every id.
-/
namespace CurveBoard

structure Store (α : Type) where
  primitives : Table (Primitive α)
  /-- How many primitives have been put in, counting replacements. -/
  upserts : Nat

namespace Store

variable {α : Type}

def empty : Store α := ⟨Table.empty, 0⟩

def upsert (s : Store α) (p : Primitive α) : Store α :=
  ⟨s.primitives.insert p.id p, s.upserts + 1⟩

def delete (s : Store α) (id : String) : Store α := { s with primitives := s.primitives.erase id }

end Store

end CurveBoard
