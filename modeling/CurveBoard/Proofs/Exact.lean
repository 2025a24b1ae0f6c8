import CurveBoard.Scalar
import Mathlib.Algebra.Order.Floor.Ring
import Mathlib.Data.Rat.Cast.OfScientific
import Mathlib.Data.Rat.Floor
import Mathlib.Tactic.Linarith
import Mathlib.Tactic.NormNum.OfScientific

/-!
# Exact arithmetic

The numbers of an ordered field, with two infinities and NaN beside them, are scalars: infinities
and NaN behave as IEEE 754 has them, and nothing is rounded. There is one zero, and dividing by it
gives the infinity with the sign of the dividend.
-/
namespace CurveBoard

inductive Extended (K : Type)
  | finite (x : K)
  | posInf
  | negInf
  | nan
deriving DecidableEq, Repr

namespace Extended

section

variable {K : Type} [LinearOrder K]

protected def lt : Extended K → Extended K → Prop
  | finite x, finite y => x < y
  | finite _, posInf => True
  | negInf, finite _ => True
  | negInf, posInf => True
  | _, _ => False

/-- Equality of numbers; NaN is not equal to itself. -/
protected def same : Extended K → Extended K → Bool
  | finite x, finite y => decide (x = y)
  | posInf, posInf => true
  | negInf, negInf => true
  | _, _ => false

protected def le (a b : Extended K) : Prop := Extended.lt a b ∨ Extended.same a b = true

instance decidableLt : DecidableRel (Extended.lt : Extended K → Extended K → Prop)
  | finite x, finite y => inferInstanceAs (Decidable (x < y))
  | finite _, posInf => .isTrue trivial
  | negInf, finite _ => .isTrue trivial
  | negInf, posInf => .isTrue trivial
  | finite _, negInf => .isFalse id
  | finite _, nan => .isFalse id
  | negInf, negInf => .isFalse id
  | negInf, nan => .isFalse id
  | posInf, _ => .isFalse id
  | nan, _ => .isFalse id

instance decidableLe : DecidableRel (Extended.le : Extended K → Extended K → Prop) :=
  fun a b => inferInstanceAs (Decidable (Extended.lt a b ∨ Extended.same a b = true))

theorem eq_of_same {a b : Extended K} (same : Extended.same a b = true) : a = b := by
  cases a <;> cases b <;> first | rfl | cases same | exact congrArg finite (of_decide_eq_true same)

end

section

variable {K : Type} [Field K] [LinearOrder K]

protected def neg : Extended K → Extended K
  | finite x => finite (-x)
  | posInf => negInf
  | negInf => posInf
  | nan => nan

protected def add : Extended K → Extended K → Extended K
  | finite x, finite y => finite (x + y)
  | finite _, b => b
  | a, finite _ => a
  | posInf, posInf => posInf
  | negInf, negInf => negInf
  | _, _ => nan

/-- The infinity with the sign of a number; zero has no sign. -/
def infinityLike (x : K) : Extended K := if 0 < x then posInf else if x < 0 then negInf else nan

protected def mul : Extended K → Extended K → Extended K
  | finite x, finite y => finite (x * y)
  | finite x, posInf => infinityLike x
  | finite x, negInf => infinityLike (-x)
  | posInf, finite y => infinityLike y
  | negInf, finite y => infinityLike (-y)
  | posInf, posInf => posInf
  | posInf, negInf => negInf
  | negInf, posInf => negInf
  | negInf, negInf => posInf
  | _, _ => nan

protected def div : Extended K → Extended K → Extended K
  | finite x, finite y => if y = 0 then infinityLike x else finite (x / y)
  | finite _, posInf => finite 0
  | finite _, negInf => finite 0
  | posInf, finite y => if y < 0 then negInf else posInf
  | negInf, finite y => if y < 0 then posInf else negInf
  | _, _ => nan

variable [FloorRing K]

/-- The nearest integer, a half going to the even one. -/
def nearestInteger (x : K) : ℤ :=
  let n := ⌊x⌋
  if x - n < 1 / 2 then n else if 1 / 2 < x - n then n + 1 else if n % 2 = 0 then n else n + 1

/-- The nearest multiple of a hundredth; an infinity and NaN are left as they are. -/
def toHundredths : Extended K → Extended K
  | finite x => finite (nearestInteger (100 * x) / 100)
  | a => a

end

variable {K : Type} [Field K] [LinearOrder K] [FloorRing K]

instance : Scalar (Extended K) where
  add := Extended.add
  sub a b := Extended.add a b.neg
  mul := Extended.mul
  div := Extended.div
  neg := Extended.neg
  lt := Extended.lt
  le := Extended.le
  beq := Extended.same
  ofScientific mantissa negative exponent :=
    finite (OfScientific.ofScientific mantissa negative exponent)
  decLt := decidableLt
  decLe := decidableLe
  ofInt n := finite n
  isFinite
    | finite _ => true
    | _ => false
  isNaN
    | nan => true
    | _ => false
  infinity := posInf
  floor
    | finite x => ⌊x⌋
    | _ => 0
  ceil
    | finite x => ⌈x⌉
    | _ => 0
  hundredths := toHundredths
  -- without a rounding of the hundredfold there is no difference
  arrayHundredths := toHundredths

/-!
### Finite numbers

On them all operations are those of the field.
-/

section

variable {x y : K}

@[simp] theorem finite_add : (finite x + finite y : Extended K) = finite (x + y) := rfl

@[simp] theorem finite_sub : (finite x - finite y : Extended K) = finite (x - y) := by
  rw [sub_eq_add_neg]
  rfl

@[simp] theorem finite_mul : (finite x * finite y : Extended K) = finite (x * y) := rfl

@[simp] theorem finite_neg : (-finite x : Extended K) = finite (-x) := rfl

theorem finite_div (nonzero : y ≠ 0) : (finite x / finite y : Extended K) = finite (x / y) :=
  if_neg nonzero

theorem finite_div_zero : (finite x / finite 0 : Extended K) = infinityLike x :=
  if_pos rfl

/-- No multiple of a quotient by zero is a number, not even the one by zero. -/
theorem infinityLike_mul_zero : (infinityLike x * finite 0 : Extended K) = nan := by
  have zero : infinityLike (0 : K) = nan := by simp [infinityLike]
  have minus_zero : infinityLike (-0 : K) = nan := by simp [infinityLike]
  unfold infinityLike
  split_ifs
  · exact zero
  · exact minus_zero
  · rfl

@[simp] theorem finite_lt : (finite x : Extended K) < finite y ↔ x < y := .rfl

@[simp] theorem finite_le : (finite x : Extended K) ≤ finite y ↔ x ≤ y := by
  rw [le_iff_lt_or_eq]
  exact or_congr .rfl decide_eq_true_iff

@[simp] theorem finite_beq : ((finite x : Extended K) == finite y) = decide (x = y) := rfl

@[simp] theorem scientific (mantissa exponent : ℕ) (negative : Bool) :
    (OfScientific.ofScientific mantissa negative exponent : Extended K) =
      finite (OfScientific.ofScientific mantissa negative exponent) := rfl

theorem zero_literal [IsStrictOrderedRing K] : (0.0 : K) = 0 := by norm_num

theorem two_literal [IsStrictOrderedRing K] : (2.0 : K) = 2 := by norm_num

@[simp] theorem ofNat_eq (n : ℕ) : (Scalar.ofNat n : Extended K) = finite (n : K) := by
  rw [← Int.cast_natCast]
  rfl

@[simp] theorem isFinite_finite : Scalar.isFinite (finite x) = true := rfl

@[simp] theorem ceil_finite : Scalar.ceil (finite x) = ⌈x⌉ := rfl

theorem isFinite_iff {a : Extended K} : Scalar.isFinite a = true ↔ ∃ x, a = finite x := by
  cases a with
  | finite x => exact iff_of_true rfl ⟨x, rfl⟩
  | _ => exact iff_of_false nofun nofun

theorem isNaN_iff {a : Extended K} : Scalar.isNaN a = true ↔ a = nan := by
  cases a with
  | nan => exact iff_of_true rfl rfl
  | _ => exact iff_of_false nofun nofun

theorem quotient_finite [IsStrictOrderedRing K] (nonzero : y ≠ 0) :
    Scalar.quotient (finite x) (finite y) = .ok (finite (x / y)) := by
  simp [Scalar.quotient, zero_literal, nonzero, finite_div nonzero]

theorem quotient_posInf : Scalar.quotient (finite x) posInf = .ok (finite 0) := rfl

theorem quotient_negInf : Scalar.quotient (finite x) negInf = .ok (finite 0) := rfl

theorem toInteger_finite (rounding : Extended K → ℤ) :
    Scalar.toInteger rounding (finite x) = .ok (rounding (finite x)) := rfl

end

/-!
### NaN

Whatever is made from NaN is NaN.
-/

section

variable (a : Extended K)

@[simp] theorem nan_add : nan + a = nan := by
  cases a <;> rfl

@[simp] theorem add_nan : a + nan = nan := by
  cases a <;> rfl

@[simp] theorem nan_sub : nan - a = nan := by
  cases a <;> rfl

@[simp] theorem sub_nan : a - nan = nan := by
  cases a <;> rfl

@[simp] theorem nan_mul : nan * a = nan := by
  cases a <;> rfl

@[simp] theorem nan_div : nan / a = nan := by
  cases a <;> rfl

theorem quotient_nan {a b : Extended K} (divided : Scalar.quotient nan a = .ok b) : b = nan := by
  unfold Scalar.quotient at divided
  split at divided
  · cases divided
  · rw [nan_div] at divided
    exact (Except.ok.inj divided).symm

end

/-!
### The order

Infinities are at its ends, and NaN is not in it.
-/

section

variable {a b c : Extended K}

theorem lt_trans (less : a < b) (less' : b < c) : a < c := by
  cases b with
  | finite y =>
    -- only a finite number is between two others
    cases a with
    | finite x =>
      cases c with
      | finite z => exact finite_lt.2 ((finite_lt.1 less).trans (finite_lt.1 less'))
      | posInf => exact trivial
      | _ => exact absurd less' id
    | negInf =>
      cases c with
      | finite _ => exact trivial
      | posInf => exact trivial
      | _ => exact absurd less' id
    | _ => exact absurd less id
  | posInf => exact absurd less' id
  | negInf => cases a <;> exact absurd less id
  | nan => exact absurd less' id

theorem lt_of_lt_of_le (less : a < b) (below : b ≤ c) : a < c := by
  rcases below with less' | same
  · exact lt_trans less less'
  · rwa [← eq_of_same same]

theorem lt_of_le_of_lt (below : a ≤ b) (less : b < c) : a < c := by
  rcases below with less' | same
  · exact lt_trans less' less
  · rwa [eq_of_same same]

theorem le_trans (below : a ≤ b) (below' : b ≤ c) : a ≤ c := by
  rcases below with less | same
  · exact .inl (lt_of_lt_of_le less below')
  · rwa [eq_of_same same]

theorem not_nan_le : ¬ nan ≤ a := by
  rintro (⟨⟨⟩⟩ | ⟨⟨⟩⟩)

theorem not_lt_nan : ¬ a < nan := by
  cases a <;> exact id

/-- Of a finite number and one that is not NaN, one is at most the other. -/
theorem finite_le_of_not_lt {x : K} (number : Scalar.isNaN a = false) (above : ¬ a < finite x) :
    finite x ≤ a := by
  cases a with
  | finite z => exact finite_le.2 (not_lt.1 fun less => above (finite_lt.2 less))
  | posInf => exact .inl trivial
  | negInf => exact absurd trivial above
  | nan => cases number

theorem le_finite_of_not_lt {x : K} (number : Scalar.isNaN a = false) (below : ¬ finite x < a) :
    a ≤ finite x := by
  cases a with
  | finite z => exact finite_le.2 (not_lt.1 fun less => below (finite_lt.2 less))
  | negInf => exact .inl trivial
  | posInf => exact absurd trivial below
  | nan => cases number

end

end Extended

end CurveBoard
