import CurveBoard.Proofs.Exact
import Mathlib.Algebra.Order.Field.Basic
import Mathlib.Tactic.FieldSimp
import Mathlib.Tactic.Positivity

/-!
# Nearest integers

The integer that is nearest to a number is less than a half away from it, or is the even one of two
that are a half away; and no other integer is either. So rounding is the same on both sides of zero,
and what a quotient of natural numbers is rounded to depends on its value only.
-/
namespace CurveBoard

open Extended

variable {K : Type} [Field K] [LinearOrder K] [IsStrictOrderedRing K] [FloorRing K]
  {x : K} {n : ℤ}

/-- The nearest integer is less than a half away, or is the even one of two that are a half away. -/
theorem nearestInteger_spec (x : K) :
    |x - nearestInteger x| < 1 / 2 ∨ |x - nearestInteger x| = 1 / 2 ∧
      nearestInteger x % 2 = 0 := by
  have floor_le := Int.floor_le x
  have lt_floor := Int.lt_floor_add_one x
  unfold nearestInteger
  dsimp only
  split
  next below =>
    left
    rw [abs_sub_lt_iff]
    constructor <;> linarith
  next notBelow =>
    split
    next above =>
      left
      rw [abs_sub_lt_iff]
      push_cast
      constructor <;> linarith
    next notAbove =>
      have half : x - ⌊x⌋ = 1 / 2 := le_antisymm (not_lt.1 notAbove) (not_lt.1 notBelow)
      right
      split
      next even => exact ⟨by rw [half, abs_of_pos (by norm_num)], even⟩
      next odd =>
        refine ⟨?_, by omega⟩
        have other : x - ((⌊x⌋ + 1 : ℤ) : K) = -(1 / 2) := by
          push_cast
          linarith
        rw [other, abs_neg, abs_of_pos (by norm_num)]

theorem abs_sub_nearestInteger_le (x : K) : |x - nearestInteger x| ≤ 1 / 2 := by
  rcases nearestInteger_spec x with near | ⟨half, -⟩
  · exact near.le
  · exact half.le

private theorem nearestInteger_eq_iff :
    nearestInteger x = n ↔ |x - n| < 1 / 2 ∨ |x - n| = 1 / 2 ∧ n % 2 = 0 := by
  constructor
  · rintro rfl
    exact nearestInteger_spec x
  · intro near
    -- two integers around a number are at most one apart, and both even if they are a half away
    -- from it
    have apart : |((nearestInteger x - n : ℤ) : K)| ≤ |x - nearestInteger x| + |x - n| := by
      push_cast
      rw [abs_sub_comm x (nearestInteger x : K)]
      exact abs_sub_le _ _ _
    have same_of_less (less : |x - nearestInteger x| + |x - n| < 1) : nearestInteger x = n := by
      have small : |nearestInteger x - n| < 1 := by exact_mod_cast apart.trans_lt less
      rw [Int.abs_lt_one_iff] at small
      omega
    rcases nearestInteger_spec x with near' | ⟨half', even'⟩
    · rcases near with near | ⟨half, -⟩
      · exact same_of_less (by linarith)
      · exact same_of_less (by linarith)
    · rcases near with near | ⟨half, even⟩
      · exact same_of_less (by linarith)
      · have one : |nearestInteger x - n| ≤ 1 := by
          have bound : |((nearestInteger x - n : ℤ) : K)| ≤ 1 := apart.trans (by linarith)
          exact_mod_cast bound
        rw [abs_le] at one
        omega

theorem nearestInteger_neg (x : K) : nearestInteger (-x) = -nearestInteger x := by
  rw [nearestInteger_eq_iff]
  have same : |-x - ((-nearestInteger x : ℤ) : K)| = |x - nearestInteger x| := by
    push_cast
    rw [← neg_sub', abs_neg]
  rw [same]
  rcases nearestInteger_spec x with near | ⟨half, even⟩
  · exact .inl near
  · exact .inr ⟨half, by omega⟩

omit [IsStrictOrderedRing K] in
theorem nearestInteger_nonneg (nonneg : 0 ≤ x) : 0 ≤ nearestInteger x := by
  have floor_nonneg : 0 ≤ ⌊x⌋ := Int.floor_nonneg.2 nonneg
  unfold nearestInteger
  dsimp only
  split
  · exact floor_nonneg
  · split
    · omega
    · split <;> omega

/-- The integer nearest to a quotient of natural numbers. -/
theorem nearestInteger_div (p : ℕ) {q : ℕ} (positive : 0 < q) :
    nearestInteger ((p : K) / q) = roundedQuotient p q := by
  have q_pos : (0 : K) < q := Nat.cast_pos.2 positive
  have whole : ((q * (p / q) + p % q : ℕ) : K) = p := by rw [Nat.div_add_mod]
  have rest_lt : ((p % q : ℕ) : K) < q := Nat.cast_lt.2 (Nat.mod_lt p positive)
  have rest_eq : (p : K) / q - ((p / q : ℕ) : ℤ) = ((p % q : ℕ) : K) / q := by
    rw [← whole, Int.cast_natCast, Nat.cast_add, Nat.cast_mul]
    field_simp
    ring
  have floor_eq : ⌊(p : K) / q⌋ = ((p / q : ℕ) : ℤ) := by
    rw [Int.floor_eq_iff]
    have nonneg : 0 ≤ ((p % q : ℕ) : K) / q := by positivity
    have less : ((p % q : ℕ) : K) / q < 1 := (div_lt_one q_pos).2 rest_lt
    constructor <;> linarith
  have below_iff : ((p % q : ℕ) : K) / q < 1 / 2 ↔ 2 * (p % q) < q := by
    rw [div_lt_div_iff₀ q_pos two_pos, one_mul, mul_comm]
    exact_mod_cast Iff.rfl
  have above_iff : 1 / 2 < ((p % q : ℕ) : K) / q ↔ q < 2 * (p % q) := by
    rw [div_lt_div_iff₀ two_pos q_pos, one_mul, mul_comm]
    exact_mod_cast Iff.rfl
  unfold nearestInteger roundedQuotient
  simp only [floor_eq, rest_eq, below_iff, above_iff]
  split_ifs <;> omega

/-- Equal quotients are rounded to the same number. -/
theorem roundedQuotient_congr {p q p' q' : ℕ} (positive : 0 < q) (positive' : 0 < q')
    (same : (p : ℚ) / q = p' / q') : roundedQuotient p q = roundedQuotient p' q' := by
  have rounded := nearestInteger_div (K := ℚ) p positive
  rw [same, nearestInteger_div p' positive'] at rounded
  exact_mod_cast rounded.symm

end CurveBoard
