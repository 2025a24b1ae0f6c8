/-!
# Character classes as intervals

A class of characters is a list of closed intervals of code points.
-/
namespace CurveBoard

def inRanges (ranges : List (Nat × Nat)) (c : Char) : Bool :=
  ranges.any fun (first, last) => first ≤ c.toNat && c.toNat ≤ last

end CurveBoard
