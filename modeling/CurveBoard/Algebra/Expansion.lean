import CurveBoard.Algebra.Calculus

/-!
# Multiplying out

A product of sums, or a natural power of a sum, becomes one sum.
-/
namespace CurveBoard

namespace Calculus

variable (c : Calculus)

/-- The product of two expressions, term by term. -/
def distributed (a b : Expression) : Expression :=
  c.sum (a.terms.flatMap fun s => b.terms.map fun t => c.product [s, t])

/-- The greatest exponent of a sum that is multiplied out. -/
def greatestExpansion : Nat := 200

mutual
def expand : Expression → Expression
  | .sum terms => c.sum (expandAll terms)
  | .product factors => (expandAll factors).foldl (distributed c) 1
  | .power base exponent =>
    let base := expand base
    match base, exponent.integer? with
    | .sum terms, some n =>
      if 0 < n && n ≤ greatestExpansion then
        (List.replicate n.toNat (Expression.sum terms)).foldl (distributed c) 1
      else c.power base exponent
    | base, _ => c.power base exponent
  | e => e

def expandAll : List Expression → List Expression
  | [] => []
  | e :: rest => expand e :: expandAll rest
end

end Calculus

end CurveBoard
