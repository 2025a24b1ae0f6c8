import CurveBoard.Proofs.Exact
import Mathlib

/-!
# Exact geometry

Over the real numbers the functions that shapes need have their exact values, too. What is infinite
has the values that IEEE 754 gives to infinities: those at the end of a function, and NaN where
there is none.
-/
namespace CurveBoard.Extended

/-- The angle of a point as it is seen from the origin, by its ordinate and its abscissa. Of two
infinite sides none is the longer one. -/
noncomputable def angle : Extended ℝ → Extended ℝ → Extended ℝ
  | finite y, finite x => finite (Complex.arg ⟨x, y⟩)
  | finite _, posInf => finite 0
  | finite y, negInf => finite (if y < 0 then -Real.pi else Real.pi)
  | posInf, finite _ => finite (Complex.arg ⟨0, 1⟩)
  | negInf, finite _ => finite (Complex.arg ⟨0, -1⟩)
  | posInf, posInf => finite (Complex.arg ⟨1, 1⟩)
  | posInf, negInf => finite (Complex.arg ⟨-1, 1⟩)
  | negInf, posInf => finite (Complex.arg ⟨1, -1⟩)
  | negInf, negInf => finite (Complex.arg ⟨-1, -1⟩)
  | nan, _ => nan
  | _, nan => nan

/-- The length of the vector from the origin to a point; an infinite side makes it infinite, even
beside NaN. -/
noncomputable def length : Extended ℝ → Extended ℝ → Extended ℝ
  | finite x, finite y => finite (Real.sqrt (x ^ 2 + y ^ 2))
  | posInf, _ => posInf
  | negInf, _ => posInf
  | _, posInf => posInf
  | _, negInf => posInf
  | _, _ => nan

/-- A number with so many digits after the point, the last one rounded. -/
noncomputable def fixed (places : Nat) : Extended ℝ → String
  | finite x =>
    let digits := fixedDigits places (nearestInteger (|x| * 10 ^ places)).toNat
    String.ofList (if x < 0 then '-' :: digits else digits)
  | posInf => "inf"
  | negInf => "-inf"
  | nan => "nan"

noncomputable instance : Geometry (Extended ℝ) where
  pi := finite Real.pi
  sqrt
    | finite x => if 0 ≤ x then finite (Real.sqrt x) else nan
    | posInf => posInf
    | _ => nan
  hypotenuse := length
  sin
    | finite x => finite (Real.sin x)
    | _ => nan
  cos
    | finite x => finite (Real.cos x)
    | _ => nan
  arctan2 := angle
  log10
    | finite x => if 0 < x then finite (Real.logb 10 x) else if x < 0 then nan else negInf
    | posInf => posInf
    | _ => nan
  fixedText := fixed

end CurveBoard.Extended
