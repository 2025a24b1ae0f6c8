import CurveBoard.Formula.Combinatorics
import CurveBoard.Proofs.Exact
import Mathlib.RingTheory.Polynomial.Pochhammer
import Mathlib.Tactic.Ring

/-!
# Factorials and binomial coefficients of exact numbers

Over exact numbers a multifactorial is the product of all positive terms, and a binomial coefficient
that of all its quotients. So nothing is lost where the multiplication stops early: the terms of a
multifactorial are positive and finite, so it does not stop early at all, and a product of quotients
that has become zero stays so. There are only so many positive terms, since some multiple of the
step is larger than the number.
-/
namespace CurveBoard

open Scalar Extended Finset
open scoped Nat

namespace FallingProduct

section Run

variable {α : Type} [Scalar α] {step : α} {p next : FallingProduct α}

theorem next?_of_pos (positive : 0.0 < p.factor)
    (changing : saturated (p.product * p.factor) = false) :
    p.next? step = some ⟨p.product * p.factor, p.factor - step⟩ := by
  rw [next?, if_pos positive]
  simp only [changing, Bool.false_eq_true, if_false]

theorem run_of_next (going : p.next? step = some next) : run step p = run step next := by
  rw [run, going]

theorem run_of_last (last : p.next? step = none) : run step p = some p.final := by
  rw [run, last]

end Run

section Exact

variable {K : Type} [Field K] [LinearOrder K] [IsStrictOrderedRing K] [FloorRing K]
  {step product factor : K}

private theorem saturated_finite {x : K} (nonzero : x ≠ 0) : saturated (finite x) = false := by
  simp [saturated, isInfinite, zero_literal, nonzero]

private theorem run_step (nonzero : product ≠ 0) (positive : 0 < factor) :
    run (finite step) ⟨finite product, finite factor⟩ =
      run (finite step) ⟨finite (product * factor), finite (factor - step)⟩ := by
  refine run_of_next ((next?_of_pos ?_ ?_).trans ?_)
  · simpa [zero_literal] using positive
  · exact saturated_finite (mul_ne_zero nonzero positive.ne')
  · simp only [finite_mul, finite_sub]

private theorem run_last (last : ¬ 0 < factor) :
    run (finite step) ⟨finite product, finite factor⟩ = some (finite product) := by
  have ended : ¬ (0.0 : Extended K) < finite factor := by simpa [zero_literal] using last
  have last' : next? (finite step) ⟨finite product, finite factor⟩ = none := if_neg ended
  rw [run_of_last last', final, if_neg ended]

/-- A run multiplies by all terms that are positive. -/
theorem run_exact {count : ℕ} (nonzero : product ≠ 0)
    (terms : ∀ i : ℕ, 0 < factor - i * step ↔ i < count) :
    run (finite step) ⟨finite product, finite factor⟩ =
      some (finite (product * ∏ i ∈ range count, (factor - i * step))) := by
  induction count generalizing product factor with
  | zero =>
    have last : ¬ 0 < factor := by simpa using terms 0
    rw [run_last last, prod_range_zero, mul_one]
  | succ count ih =>
    have positive : 0 < factor := by simpa using terms 0
    have shifted (i : ℕ) : factor - step - i * step = factor - (i + 1 : ℕ) * step := by
      push_cast; ring
    have terms' (i : ℕ) : 0 < factor - step - i * step ↔ i < count := by
      rw [shifted, terms, Nat.add_lt_add_iff_right]
    rw [run_step nonzero positive, ih (mul_ne_zero nonzero positive.ne') terms', prod_range_succ']
    simp only [shifted, Nat.cast_zero, zero_mul, sub_zero]
    rw [mul_assoc, mul_comm factor]

end Exact

end FallingProduct

section Multifactorial

variable {K : Type} [Field K] [LinearOrder K] [IsStrictOrderedRing K] [FloorRing K] {x step : K}

omit [IsStrictOrderedRing K] [LinearOrder K] [FloorRing K] in
private theorem one_literal [CharZero K] : (1.0 : K) = 1 := by norm_num

private theorem multifactorial?_zero (positive : 0 < step) :
    multifactorial? (finite 0) (finite step) = some (finite (1 : K)) := by
  simp [multifactorial?, isNaN, zero_literal, one_literal, positive]

private theorem multifactorial?_of_pos (positive : 0 < step) (above : 0 < x) :
    multifactorial? (finite x) (finite step) =
      FallingProduct.run (finite step) ⟨finite x, finite (x - step)⟩ := by
  simp [multifactorial?, isNaN, isInfinite, zero_literal, positive, above.le, above.ne']

/-- As many terms are positive as steps fit below the number. -/
theorem positive_term_iff (positive : 0 < step) (x : K) (i : ℕ) :
    0 < x - i * step ↔ i < ⌈x / step⌉₊ := by
  rw [sub_pos, Nat.lt_ceil, lt_div_iff₀ positive]

private theorem multifactorial?_exact (positive : 0 < step) (above : 0 < x) :
    multifactorial? (finite x) (finite step) =
      some (finite (∏ i ∈ range ⌈x / step⌉₊, (x - i * step))) := by
  -- the number is itself the first term
  have first : FallingProduct.run (finite step) ⟨finite 1, finite x⟩ =
      FallingProduct.run (finite step) ⟨finite x, finite (x - step)⟩ := by
    rw [FallingProduct.run_step one_ne_zero above, one_mul]
  rw [multifactorial?_of_pos positive above, ← first,
    FallingProduct.run_exact one_ne_zero (positive_term_iff positive x), one_mul]

/-- From one step to the next a multifactorial is multiplied by the number. -/
theorem multifactorial?_step (positive : 0 < step) (enough : step ≤ x) :
    ∃ before : K, multifactorial? (finite (x - step)) (finite step) = some (finite before) ∧
      multifactorial? (finite x) (finite step) = some (finite (x * before)) := by
  have above : 0 < x := positive.trans_le enough
  rcases enough.lt_or_eq with more | rfl
  · refine ⟨_, multifactorial?_exact positive (sub_pos.2 more), ?_⟩
    rw [multifactorial?_of_pos positive above,
      FallingProduct.run_exact above.ne' (positive_term_iff positive _)]
  · refine ⟨1, by rw [sub_self, multifactorial?_zero positive], ?_⟩
    rw [multifactorial?_of_pos positive above, sub_self,
      FallingProduct.run_last (lt_irrefl 0), mul_one]

private theorem multifactorial?_natCast (n : ℕ) :
    multifactorial? (finite (n : K)) (finite 1) = some (finite (n ! : K)) := by
  induction n with
  | zero => simpa using multifactorial?_zero (one_pos : (0 : K) < 1)
  | succ n ih =>
    have enough : (1 : K) ≤ (n + 1 : ℕ) := by exact_mod_cast Nat.le_add_left 1 n
    obtain ⟨before, value, value'⟩ := multifactorial?_step one_pos enough
    rw [Nat.cast_add_one, add_sub_cancel_right, ih] at value
    obtain rfl : (n ! : K) = before := finite.inj (Option.some.inj value)
    rw [value', Nat.factorial_succ, Nat.cast_mul]

end Multifactorial

section Binomial

variable {K : Type} [Field K] [LinearOrder K] [IsStrictOrderedRing K] [FloorRing K]

private theorem binomialFrom_exact (x : K) (k i count : ℕ) (reach : i + count = k) (product : K) :
    binomialFrom (finite x) (finite (k : K)) count i (finite product) =
      finite (product * ∏ j ∈ range count, (x - (i + j : ℕ)) / (k - (i + j : ℕ))) := by
  induction count generalizing i product with
  | zero => simp [binomialFrom]
  | succ count ih =>
    have below : ((k : K) - i) ≠ 0 := sub_ne_zero.2 (by exact_mod_cast (by omega : k ≠ i))
    have shifted (j : ℕ) : i + (j + 1) = i + 1 + j := by omega
    have split : product * ∏ j ∈ range (count + 1), (x - (i + j : ℕ)) / (k - (i + j : ℕ)) =
        product * ((x - i) / (k - i)) * ∏ j ∈ range count,
        (x - (i + 1 + j : ℕ)) / (k - (i + 1 + j : ℕ)) := by
      rw [prod_range_succ', mul_comm (∏ j ∈ range count, _), ← mul_assoc]
      exact congrArg _ (prod_congr rfl fun j _ => by rw [shifted])
    simp only [binomialFrom, ofNat_eq, finite_sub, finite_div below, finite_mul, isFinite_finite,
      Bool.not_true, Bool.false_or, scientific]
    split
    next vanished =>
      have zero : product * ((x - i) / (k - i)) = 0 := by simpa [zero_literal] using vanished
      rw [split, zero, zero_mul]
    next => rw [ih (i + 1) (by omega), split]

private theorem binomial_exact (x : K) (k : ℕ) :
    binomial (finite x) (finite (k : K)) = finite (∏ i ∈ range k, (x - i) / (k - i)) := by
  have product := binomialFrom_exact x k 0 k (Nat.zero_add k) 1
  simpa [binomial, isNaN, one_literal] using product

omit [IsStrictOrderedRing K] [LinearOrder K] [FloorRing K] in
/-- The quotients multiply to the number of choices: numerators and denominators are falling
factorials. -/
theorem prod_quotients [CharZero K] (n k : ℕ) :
    ∏ i ∈ range k, ((n : K) - i) / (k - i) = n.choose k := by
  rw [prod_div_distrib, ← descPochhammer_eval_eq_prod_range,
    ← descPochhammer_eval_eq_prod_range, descPochhammer_eval_eq_descFactorial,
    descPochhammer_eval_eq_descFactorial, Nat.descFactorial_self,
    Nat.descFactorial_eq_factorial_mul_choose, Nat.cast_mul, mul_div_cancel_left₀]
  exact_mod_cast k.factorial_ne_zero

private theorem binomial_natCast (n k : ℕ) :
    binomial (finite (n : K)) (finite (k : K)) = finite (n.choose k : K) := by
  rw [binomial_exact, prod_quotients]

end Binomial

/-- Factorials and binomial coefficients of whole numbers are the usual ones. The multifactorial of
a positive number has a value, and that is the product of all positive terms, so it falls by its
first factor from one step to the next. A binomial coefficient is the product of all its quotients,
also where the multiplication has stopped before the last. -/
theorem combinatorics_exact {K : Type} [Field K] [LinearOrder K] [IsStrictOrderedRing K]
    [FloorRing K] :
    (∀ n k : ℕ, binomial (finite (n : K)) (finite (k : K)) = finite (n.choose k : K)) ∧
      (∀ (x : K) (k : ℕ), binomial (finite x) (finite (k : K)) =
        finite (∏ i ∈ range k, (x - i) / (k - i))) ∧
      (∀ n : ℕ, multifactorial? (finite (n : K)) 1.0 = some (finite (n ! : K))) ∧
      ∀ step : K, 0 < step →
        multifactorial? (finite 0) (finite step) = some (finite 1) ∧
          ∀ x : K, 0 < x →
            (∃ terms : Finset ℕ, (∀ i : ℕ, i ∈ terms ↔ 0 < x - i * step) ∧
              multifactorial? (finite x) (finite step) =
                some (finite (∏ i ∈ terms, (x - i * step)))) ∧
            (step ≤ x → ∃ before : K, multifactorial? (finite (x - step)) (finite step) =
              some (finite before) ∧ multifactorial? (finite x) (finite step) =
                some (finite (x * before))) := by
  have one : (1.0 : Extended K) = finite 1 := congrArg finite one_literal
  refine ⟨binomial_natCast, binomial_exact, fun n =>
    one ▸ multifactorial?_natCast n, fun step positive =>
    ⟨multifactorial?_zero positive, fun x above =>
      ⟨⟨range ⌈x / step⌉₊, fun i => ?_, ?_⟩, fun enough => ?_⟩⟩⟩
  · rw [mem_range, positive_term_iff positive]
  · exact multifactorial?_exact positive above
  · exact multifactorial?_step positive enough

/-- Three terms, 7/2 and 2 and 1/2, are positive. -/
theorem combinatorics_exact_halves :
    0 < (3 / 2 : ℚ) ∧ 0 < (7 / 2 : ℚ) ∧ (3 / 2 : ℚ) ≤ 7 / 2 ∧
      multifactorial? (finite (7 / 2 : ℚ)) (finite (3 / 2)) = some (finite (7 / 2)) ∧
      ∃ before : ℚ, multifactorial? (finite (7 / 2 - 3 / 2)) (finite (3 / 2)) =
        some (finite before) ∧ multifactorial? (finite (7 / 2)) (finite (3 / 2)) =
          some (finite (7 / 2 * before)) := by
  have positive : 0 < (3 / 2 : ℚ) := by norm_num
  have above : 0 < (7 / 2 : ℚ) := by norm_num
  have enough : (3 / 2 : ℚ) ≤ 7 / 2 := by norm_num
  obtain ⟨-, -, -, values⟩ := combinatorics_exact (K := ℚ)
  obtain ⟨⟨terms, which, value⟩, falls⟩ := (values (3 / 2) positive).2 (7 / 2) above
  refine ⟨positive, above, enough, ?_, falls enough⟩
  -- the terms are positive up to the third
  have three : terms = range 3 := by
    ext i
    rw [which, mem_range, sub_pos, ← lt_div_iff₀ positive]
    have bound : (7 / 2 : ℚ) / (3 / 2) = 7 / 3 := by norm_num
    rw [bound]
    constructor
    · intro less
      have less' : (i : ℚ) < 3 := less.trans (by norm_num)
      exact_mod_cast less'
    · intro less
      have most : (i : ℚ) ≤ 2 := by exact_mod_cast Nat.le_of_lt_succ less
      exact most.trans_lt (by norm_num)
  rw [value, three]
  norm_num [prod_range_succ]

end CurveBoard
