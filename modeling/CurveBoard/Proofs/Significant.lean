import CurveBoard.Proofs.Decimal
import CurveBoard.Proofs.Hundredths
import CurveBoard.Proofs.Rounding

/-!
# Doubles with few digits

A double that is written with a count of significant digits is read as the double nearest to the
decimal that has been written: the text spells that decimal, be it written with an exponent or not,
and reading depends on nothing but the number that is spelled.

Whether it is the same double is a question of its digits. A double nearest to a decimal with no
more digits than are written is so near to it that this decimal is the one that is written. So of
the numbers that are rounded to hundredths those come back that have at most so many digits, and the
others do not.
-/
namespace CurveBoard

/-! ### Powers of ten -/

private theorem ten_zpow_pos (e : ℤ) : (0 : ℚ) < 10 ^ e := zpow_pos (by norm_num) e

private theorem ten_zpow_eq_div (e : ℤ) : (10 : ℚ) ^ e = 10 ^ e.toNat / 10 ^ (-e).toNat := by
  rcases Int.le_total 0 e with up | down
  · obtain ⟨k, rfl⟩ := Int.eq_ofNat_of_zero_le up
    simp
  · obtain ⟨k, same⟩ := Int.eq_ofNat_of_zero_le (Int.neg_nonneg_of_nonpos down)
    obtain rfl : e = -k := by omega
    simp

private theorem tenPower_eq (n : ℕ) : tenPower n = 10 ^ n := rfl

private theorem tenPower_pos (n : ℕ) : 0 < tenPower n := Nat.pow_pos (by decide)

/-- A decimal as a quotient. -/
theorem mul_tenPower_div (c : ℕ) (e : ℤ) :
    ((c * tenPower e.toNat : ℕ) : ℚ) / (tenPower (-e).toNat : ℕ) = c * 10 ^ e := by
  rw [tenPower_eq, tenPower_eq, ten_zpow_eq_div]
  push_cast
  rw [mul_div_assoc]

/-- A quotient on the grid of a power of ten. -/
theorem div_decimalGrid (p q : ℕ) (e : ℤ) :
    ((p * (decimalGrid e).2 : ℕ) : ℚ) / (q * (decimalGrid e).1 : ℕ) = p / q / 10 ^ e := by
  rw [decimalGrid, tenPower_eq, tenPower_eq, ten_zpow_eq_div]
  push_cast
  rw [div_div_div_eq]

/-- The number that a decimal is. -/
def Decimal.toRat (d : Decimal) : ℚ := d.coefficient * 10 ^ d.exponent

/-! ### Equal numbers -/

section Congruence

variable {p q p' q' : ℕ}

private theorem binaryExponent_congr (p_pos : 0 < p) (q_pos : 0 < q) (p'_pos : 0 < p')
    (q'_pos : 0 < q') (same : (p : ℚ) / q = p' / q') :
    binaryExponent p q = binaryExponent p' q' := by
  obtain ⟨low, high⟩ := binaryExponent_spec p'_pos q'_pos
  rw [← same] at low high
  exact binaryExponent_eq p_pos q_pos low high

private theorem nearestFloat_eq_nearestStep (negative : Bool) (p_pos : 0 < p) :
    nearestFloat negative p q =
      if nearestStep p q (max (binaryExponent p q - 52) (-1074)) = 2 ^ 53 then
        packFloat negative (2 ^ 52) (max (binaryExponent p q - 52) (-1074) + 1)
      else packFloat negative (nearestStep p q (max (binaryExponent p q - 52) (-1074)))
        (max (binaryExponent p q - 52) (-1074)) := by
  unfold nearestFloat
  rw [if_neg p_pos.ne']
  rfl

/-- The nearest double depends on the value of a quotient only. -/
theorem nearestFloat_congr (negative : Bool) (q_pos : 0 < q) (q'_pos : 0 < q')
    (same : (p : ℚ) / q = p' / q') :
    nearestFloat negative p q = nearestFloat negative p' q' := by
  have cross : p * q' = p' * q := by
    have q_ne : (q : ℚ) ≠ 0 := Nat.cast_ne_zero.2 q_pos.ne'
    have q'_ne : (q' : ℚ) ≠ 0 := Nat.cast_ne_zero.2 q'_pos.ne'
    exact_mod_cast (div_eq_div_iff q_ne q'_ne).1 same
  rcases Nat.eq_zero_or_pos p with rfl | p_pos
  · obtain rfl : p' = 0 := by
      rw [Nat.zero_mul, eq_comm, Nat.mul_eq_zero] at cross
      exact cross.resolve_right q_pos.ne'
    rw [nearestFloat, nearestFloat, if_pos rfl, if_pos rfl]
  · have p'_pos : 0 < p' := by
      have product_pos := Nat.mul_pos p_pos q'_pos
      rw [cross] at product_pos
      exact Nat.pos_of_mul_pos_right product_pos
    have step (e : ℤ) : nearestStep p q e = nearestStep p' q' e := by
      refine roundedQuotient_congr (Nat.mul_pos q_pos (twoPower_pos _))
        (Nat.mul_pos q'_pos (twoPower_pos _)) ?_
      rw [div_shifted, div_shifted, same]
    rw [nearestFloat_eq_nearestStep negative p_pos, nearestFloat_eq_nearestStep negative p'_pos,
      binaryExponent_congr p_pos q_pos p'_pos q'_pos same, step]

end Congruence

/-! ### Decimals -/

section Decimals

variable {c c' : ℕ} {e e' : ℤ}

/-- Where the first digit of a decimal stands. -/
theorem toDigits_bounds (positive : 0 < c) (e : ℤ) :
    (10 : ℚ) ^ (e + (Nat.toDigits 10 c).length - 1) ≤ c * 10 ^ e ∧
      (c : ℚ) * 10 ^ e < 10 ^ (e + (Nat.toDigits 10 c).length) := by
  obtain ⟨n, length⟩ : ∃ n, (Nat.toDigits 10 c).length = n + 1 :=
    ⟨_, (Nat.sub_add_cancel Nat.length_toDigits_pos).symm⟩
  have less : c < 10 ^ (n + 1) := (Nat.length_toDigits_le_iff (by decide) (by omega)).1 length.le
  have at_least : 10 ^ n ≤ c := by
    rcases Nat.eq_zero_or_pos n with rfl | n_pos
    · exact positive
    · rw [← not_lt, ← Nat.length_toDigits_le_iff (by decide) n_pos, length]
      omega
  have power_pos := ten_zpow_pos e
  have shift : e + ((n + 1 : ℕ) : ℤ) - 1 = n + e := by
    push_cast
    ring
  have shift' : e + ((n + 1 : ℕ) : ℤ) = ((n + 1 : ℕ) : ℤ) + e := add_comm _ _
  rw [length, shift, shift', zpow_add₀ (by norm_num), zpow_add₀ (by norm_num), zpow_natCast,
    zpow_natCast]
  constructor
  · exact mul_le_mul_of_nonneg_right (by exact_mod_cast at_least) power_pos.le
  · exact mul_lt_mul_of_pos_right (by exact_mod_cast less) power_pos

/-- Reading a decimal depends on the number only that it is. -/
theorem floatOfDecimal_congr (negative : Bool) (same : (c : ℚ) * 10 ^ e = c' * 10 ^ e') :
    floatOfDecimal negative c e = floatOfDecimal negative c' e' := by
  have power_pos := ten_zpow_pos e
  have power_pos' := ten_zpow_pos e'
  rcases Nat.eq_zero_or_pos c with rfl | c_pos
  · obtain rfl : c' = 0 := by
      rw [Nat.cast_zero, zero_mul, eq_comm, mul_eq_zero, Nat.cast_eq_zero] at same
      exact same.resolve_right power_pos'.ne'
    simp [floatOfDecimal]
  · have c'_pos : 0 < c' := by
      have positive : (0 : ℚ) < c' * 10 ^ e' := same ▸ mul_pos (Nat.cast_pos.2 c_pos) power_pos
      exact_mod_cast pos_of_mul_pos_left positive power_pos'.le
    -- the first digits stand at the same place
    have leading : e + (Nat.toDigits 10 c).length = e' + (Nat.toDigits 10 c').length := by
      obtain ⟨low, high⟩ := toDigits_bounds c_pos e
      obtain ⟨low', high'⟩ := toDigits_bounds c'_pos e'
      rw [← same] at low' high'
      have below :=
        (zpow_lt_zpow_iff_right₀ (by norm_num : (1 : ℚ) < 10)).1 (low.trans_lt high')
      have above :=
        (zpow_lt_zpow_iff_right₀ (by norm_num : (1 : ℚ) < 10)).1 (low'.trans_lt high)
      omega
    have nearest : nearestFloat negative (c * tenPower e.toNat) (tenPower (-e).toNat) =
        nearestFloat negative (c' * tenPower e'.toNat) (tenPower (-e').toNat) := by
      refine nearestFloat_congr negative (tenPower_pos _) (tenPower_pos _) ?_
      rw [mul_tenPower_div, mul_tenPower_div, same]
    unfold floatOfDecimal
    simp only [leading, c_pos.ne', c'_pos.ne', nearest]

end Decimals

/-! ### Places of digits -/

private theorem digitCount_eq (n : ℕ) : digitCount n = (Nat.toDigits 10 n).length := by
  induction n using Nat.strong_induction_on with
  | _ n ih =>
    rw [digitCount, Nat.toDigits_eq_if (by decide)]
    split
    · rfl
    · rw [ih (n / 10) (by omega), List.length_append, List.length_singleton]

private theorem digitCount_bounds {n : ℕ} (positive : 0 < n) :
    (10 : ℚ) ^ ((digitCount n : ℤ) - 1) ≤ n ∧ (n : ℚ) < 10 ^ (digitCount n : ℤ) := by
  simpa [digitCount_eq] using toDigits_bounds positive 0

section Places

variable {p q : ℕ}

private theorem decimalExponent_spec (p_pos : 0 < p) (q_pos : 0 < q) :
    (10 : ℚ) ^ decimalExponent p q ≤ p / q ∧
    (p : ℚ) / q < 10 ^ (decimalExponent p q + 1) := by
  have p_pos' : (0 : ℚ) < p := Nat.cast_pos.2 p_pos
  have q_pos' : (0 : ℚ) < q := Nat.cast_pos.2 q_pos
  unfold decimalExponent
  split
  next large =>
    -- the digits of the whole part
    obtain ⟨low, high⟩ := digitCount_bounds (Nat.div_pos large q_pos)
    rw [Int.sub_add_cancel]
    refine ⟨low.trans Nat.cast_div_le, ?_⟩
    have less : p / q < 10 ^ digitCount (p / q) := by exact_mod_cast high
    rw [div_lt_iff₀ q_pos', zpow_natCast]
    exact_mod_cast (Nat.div_lt_iff_lt_mul q_pos).1 less
  next small =>
    -- as many places as the whole part of the inverse has digits
    obtain ⟨low, high⟩ := digitCount_bounds (Nat.div_pos (by omega : p ≤ q - 1) p_pos)
    have whole_le : ((q - 1) / p : ℕ) * p ≤ q - 1 := Nat.div_mul_le_self _ _
    have whole_lt : q - 1 < p * ((q - 1) / p + 1) := Nat.lt_mul_div_succ _ p_pos
    generalize (q - 1) / p = n at low high whole_le whole_lt
    have next_le : (n : ℚ) + 1 ≤ 10 ^ (digitCount n : ℤ) := by
      rw [zpow_natCast] at high ⊢
      exact_mod_cast high
    have above : (n : ℚ) * p < q := by exact_mod_cast (by omega : n * p < q)
    have below : (q : ℚ) ≤ p * (n + 1) := by exact_mod_cast (by omega : q ≤ p * (n + 1))
    constructor
    · rw [zpow_neg, inv_le_comm₀ (ten_zpow_pos _) (div_pos p_pos' q_pos'), inv_div,
        div_le_iff₀ p_pos', mul_comm]
      exact below.trans (mul_le_mul_of_nonneg_left next_le p_pos'.le)
    · have power : (10 : ℚ) ^ (-(digitCount n : ℤ) + 1) =
          (10 ^ ((digitCount n : ℤ) - 1))⁻¹ := by
        rw [← zpow_neg, neg_sub, neg_add_eq_sub]
      rw [power, lt_inv_comm₀ (div_pos p_pos' q_pos') (ten_zpow_pos _), inv_div,
        lt_div_iff₀ p_pos']
      exact (mul_le_mul_of_nonneg_right low p_pos'.le).trans_lt above

private theorem significantDecimal_eq (count p q : ℕ) :
    significantDecimal count p q =
      ⟨roundedQuotient (p * (decimalGrid (decimalExponent p q - count + 1)).2)
        (q * (decimalGrid (decimalExponent p q - count + 1)).1),
          decimalExponent p q - count + 1⟩ := rfl

/-- A decimal with few digits on a finer grid is smaller than each decimal with more digits on the
grid. -/
theorem finer_le {count m : ℕ} {k grid : ℤ} (short : m < 10 ^ count) (finer : k < grid) :
    (m : ℚ) * 10 ^ k ≤ 10 ^ (grid + count - 1) - 10 ^ (grid - 1) := by
  have whole : (m : ℚ) + 1 ≤ 10 ^ count := by exact_mod_cast short
  have unit_le : (10 : ℚ) ^ k ≤ 10 ^ (grid - 1) :=
    (zpow_le_zpow_iff_right₀ (by norm_num)).2 (by omega)
  have leading : (10 : ℚ) ^ (grid + count - 1) = 10 ^ (grid - 1) * 10 ^ count := by
    rw [← zpow_natCast, ← zpow_add₀ (by norm_num), sub_add_eq_add_sub]
  calc (m : ℚ) * 10 ^ k
      ≤ m * 10 ^ (grid - 1) := mul_le_mul_of_nonneg_left unit_le m.cast_nonneg
    _ ≤ (10 ^ count - 1) * 10 ^ (grid - 1) :=
      mul_le_mul_of_nonneg_right (le_sub_right_of_add_le whole) (ten_zpow_pos _).le
    _ = 10 ^ (grid + count - 1) - 10 ^ (grid - 1) := by
      rw [leading]
      ring

/-- The number of steps of a decimal grid that a quotient is rounded to. -/
theorem roundedQuotient_decimalGrid {n : ℕ} {grid : ℤ} (q_pos : 0 < q)
    (near : |(p : ℚ) / q - n * 10 ^ grid| < 10 ^ grid / 2) :
    roundedQuotient (p * (decimalGrid grid).2) (q * (decimalGrid grid).1) = n := by
  have unit_pos := ten_zpow_pos grid
  refine roundedQuotient_eq (Nat.mul_pos q_pos (tenPower_pos _)) ?_
  rw [div_decimalGrid, abs_sub_div unit_pos, div_lt_iff₀ unit_pos, abs_sub_comm]
  exact near.trans_eq (by ring)

/-- Whether two numbers differ by no more than rounding to a double may make them differ. -/
def IsVeryNear (x y : ℚ) : Prop := |x - y| ≤ x / 2 ^ 53

/-- A decimal with no more digits than are kept is the one that is kept, if it is near enough. -/
theorem toRat_significantDecimal {count m : ℕ} {k : ℤ} (few : count ≤ 14)
    (short : m < 10 ^ count) (p_pos : 0 < p) (q_pos : 0 < q)
    (near : IsVeryNear (p / q) (m * 10 ^ k)) :
    (significantDecimal count p q).toRat = m * 10 ^ k := by
  obtain ⟨low, high⟩ := decimalExponent_spec p_pos q_pos
  obtain ⟨grid, grid_eq⟩ : ∃ grid, decimalExponent p q - count + 1 = grid := ⟨_, rfl⟩
  have exponent : decimalExponent p q = grid + count - 1 := by omega
  rw [exponent] at low high
  rw [Int.sub_add_cancel, zpow_add₀ (by norm_num), zpow_natCast] at high
  have unit_pos := ten_zpow_pos grid
  have nearer : |(p : ℚ) / q - m * 10 ^ k| < 10 ^ grid / 20 := by
    have digits : (10 : ℚ) ^ count ≤ 10 ^ 14 := pow_le_pow_right₀ (by norm_num) few
    have bound : (p : ℚ) / q < 10 ^ grid * 10 ^ 14 :=
      high.trans_le (mul_le_mul_of_nonneg_left digits unit_pos.le)
    refine near.trans_lt ?_
    norm_num at bound ⊢
    linarith
  rcases lt_or_ge k grid with fine | coarse
  · -- a finer decimal with so few digits is smaller by a tenth of the grid
    have finer := finer_le short fine
    have shift : (10 : ℚ) ^ grid = 10 ^ (grid - 1) * 10 := by
      rw [← zpow_add_one₀ (by norm_num), Int.sub_add_cancel]
    have unit_pos' := ten_zpow_pos (grid - 1)
    rw [abs_sub_lt_iff, shift] at nearer
    linarith
  · obtain ⟨t, rfl⟩ : ∃ t : ℕ, k = t + grid := ⟨(k - grid).toNat, by omega⟩
    have same : (m : ℚ) * 10 ^ ((t : ℤ) + grid) = (m * 10 ^ t : ℕ) * 10 ^ grid := by
      rw [zpow_add₀ (by norm_num), zpow_natCast]
      push_cast
      ring
    rw [same] at nearer
    have coefficient := roundedQuotient_decimalGrid q_pos (nearer.trans_le (by linarith))
    rw [significantDecimal_eq, Decimal.toRat, grid_eq, coefficient, same]

private theorem coefficient_significantDecimal_zero (count q : ℕ) :
    (significantDecimal count 0 q).coefficient = 0 := by
  rw [significantDecimal_eq, Nat.zero_mul]
  simp [roundedQuotient]

theorem toRat_significantDecimal_zero (count q : ℕ) :
    (significantDecimal count 0 q).toRat = 0 := by
  rw [Decimal.toRat, coefficient_significantDecimal_zero, Nat.cast_zero, zero_mul]

/-- The digits that are kept are no more than shall be kept, but for a power of ten. -/
theorem coefficient_significantDecimal_le {count : ℕ} (p_pos : 0 < p) (q_pos : 0 < q) :
    (significantDecimal count p q).coefficient ≤ 10 ^ count := by
  obtain ⟨-, high⟩ := decimalExponent_spec p_pos q_pos
  rw [significantDecimal_eq]
  refine roundedQuotient_le (Nat.mul_pos q_pos (tenPower_pos _)) ?_
  have unit_pos := ten_zpow_pos (decimalExponent p q - count + 1)
  rw [div_decimalGrid, div_le_iff₀ unit_pos, Nat.cast_pow, Nat.cast_ofNat, ← zpow_natCast,
    ← zpow_add₀ (by norm_num)]
  refine high.le.trans_eq (congrArg _ ?_)
  ring

end Places

/-! ### All nearest doubles -/

section Nearest

variable {p q : ℕ}

/-- What is too small for a leading digit in the usual place has the least exponent. -/
theorem exists_nearestFloat_eq_packFloat_of_small (negative : Bool) (p_pos : 0 < p) (q_pos : 0 < q)
    (small : (p : ℚ) / q < 2 ^ (-1022 : ℤ)) :
    ∃ m : ℕ, nearestFloat negative p q = packFloat negative m (-1074) ∧ m ≤ 2 ^ 52 ∧
      |(m : ℚ) * 2 ^ (-1074 : ℤ) - p / q| ≤ 2 ^ (-1074 : ℤ) / 2 := by
  have least : max (binaryExponent p q - 52) (-1074) = -1074 := by
    have :=
      (zpow_lt_zpow_iff_right₀ one_lt_two).1 ((binaryExponent_spec p_pos q_pos).1.trans_lt small)
    omega
  have step_pos := two_zpow_pos (-1074)
  have near := abs_nearestStep_sub_le q_pos p (-1074)
  -- the least double with all its digits is `2 ^ 52` steps away from zero
  have short : nearestStep p q (-1074) < 2 ^ 52 + 1 := by
    have bound : (nearestStep p q (-1074) : ℚ) * 2 ^ (-1074 : ℤ) <
        (2 ^ 52 + 1) * 2 ^ (-1074 : ℤ) := by
      have shift : (2 : ℚ) ^ (-1022 : ℤ) = 2 ^ 52 * 2 ^ (-1074 : ℤ) := by
        rw [← zpow_natCast, ← zpow_add₀ two_ne_zero]
        rfl
      rw [shift] at small
      have above := (abs_sub_le_iff.1 near).1
      generalize (2 : ℚ) ^ (-1074 : ℤ) = step at *
      linarith
    exact_mod_cast lt_of_mul_lt_mul_right bound step_pos.le
  refine ⟨nearestStep p q (-1074), ?_, by omega, near⟩
  rw [nearestFloat_eq_nearestStep negative p_pos, least, if_neg (by omega)]

/-- Half a step of the last digit is little beside a double with all its digits. -/
theorem half_step_le {n : ℕ} (normal : 2 ^ 52 ≤ n) (e : ℤ) :
    (2 : ℚ) ^ e / 2 ≤ n * 2 ^ e / 2 ^ 53 := by
  have normal' : (2 : ℚ) ^ 52 ≤ n := by exact_mod_cast normal
  have leading := mul_le_mul_of_nonneg_right normal' (two_zpow_pos e).le
  rw [le_div_iff₀ (by norm_num)]
  linarith

variable {x : Float} {b : Binary} {negative : Bool}

/-- A double with all its digits is very near to what it is the nearest double to. -/
theorem isVeryNear_of_nearestFloat (p_pos : 0 < p) (q_pos : 0 < q)
    (found : Binary.ofFloat? (nearestFloat negative p q) = some b)
    (normal : 2 ^ 52 ≤ b.mantissa) :
    b.negative = negative ∧ IsVeryNear (b.numerator / b.denominator) (p / q) := by
  -- the mantissa and the exponent that have been packed are those that are found
  have packed {m : ℕ} {e : ℤ}
      (found' : Binary.ofFloat? (nearestFloat negative p q) = some ⟨negative, m, e⟩)
      (near : |(m : ℚ) * 2 ^ e - p / q| ≤ 2 ^ e / 2) :
      b.negative = negative ∧ IsVeryNear (b.numerator / b.denominator) (p / q) := by
    obtain rfl := Option.some.inj (found.symm.trans found')
    rw [Binary.numerator_div_denominator]
    exact ⟨rfl, near.trans (half_step_le normal e)⟩
  rcases le_or_gt ((2 : ℚ) ^ (-1022 : ℤ)) (p / q) with large | small
  · obtain ⟨m, e, same, at_least, less, e_ge, near⟩ :=
      exists_nearestFloat_eq_packFloat negative p_pos q_pos large
    rcases lt_or_ge e 972 with finite | endless
    · refine packed ?_ near
      rw [same, Binary.ofFloat?_packFloat negative at_least less (by omega) finite]
    · rw [same, Binary.ofFloat?_packFloat_of_large negative at_least endless] at found
      cases found
  · obtain ⟨m, same, short, near⟩ :=
      exists_nearestFloat_eq_packFloat_of_small negative p_pos q_pos small
    refine packed ?_ near
    rcases short.lt_or_eq with less | rfl
    · rw [same, Binary.ofFloat?_packFloat_of_short negative _ less]
    · rw [same, Binary.ofFloat?_packFloat negative le_rfl (by decide) (by decide) (by decide)]

variable {m : ℕ} {k : ℤ}

/-- What is read is the nearest double, unless it is zero or too large. -/
theorem floatOfDecimal_eq_nearestFloat
    (found : Binary.ofFloat? (floatOfDecimal negative m k) = some b)
    (normal : 2 ^ 52 ≤ b.mantissa) :
    0 < m ∧ floatOfDecimal negative m k =
      nearestFloat negative (m * tenPower k.toNat) (tenPower (-k).toNat) := by
  have hidden : twoPower 52 = 2 ^ 52 := rfl
  unfold floatOfDecimal at found ⊢
  dsimp only at found ⊢
  split at found
  next zero =>
    rw [Binary.ofFloat?_packFloat_of_short negative _ (by decide)] at found
    cases found
    cases normal
  next nonzero =>
    split at found
    next large =>
      rw [hidden, Binary.ofFloat?_packFloat_of_large negative le_rfl (by decide)] at found
      cases found
    next inside =>
      rw [not_or] at nonzero
      exact ⟨Nat.pos_of_ne_zero nonzero.1, by rw [if_neg (not_or.2 nonzero), if_neg inside]⟩

/-- A double with all its digits is very near to a decimal that is read as it. -/
theorem isVeryNear_of_floatOfDecimal
    (found : Binary.ofFloat? (floatOfDecimal negative m k) = some b)
    (normal : 2 ^ 52 ≤ b.mantissa) :
    b.negative = negative ∧ IsVeryNear (b.numerator / b.denominator) (m * 10 ^ k) := by
  obtain ⟨m_pos, same⟩ := floatOfDecimal_eq_nearestFloat found normal
  rw [same] at found
  rw [← mul_tenPower_div]
  exact isVeryNear_of_nearestFloat (Nat.mul_pos m_pos (tenPower_pos _))
    (tenPower_pos _) found normal

end Nearest

/-! ### Few digits -/

/-- Whether a number is the double nearest to a decimal with at most so many digits. -/
def IsShort (count : ℕ) (x : Float) : Prop :=
  ∃ negative m k, m < 10 ^ count ∧ x = floatOfDecimal negative m k

/-- What is left of a double when only so many significant digits of it are kept. -/
def significantFloat (count : ℕ) (x : Float) : Float :=
  match Binary.ofFloat? x with
  | none => x
  | some b =>
    let kept := significantDecimal count b.numerator b.denominator
    floatOfDecimal b.negative kept.coefficient kept.exponent

section Few

variable {count : ℕ} {x : Float} {b : Binary}

theorem significantFloat_of_ofFloat? (found : Binary.ofFloat? x = some b) :
    significantFloat count x =
      floatOfDecimal b.negative (significantDecimal count b.numerator b.denominator).coefficient
        (significantDecimal count b.numerator b.denominator).exponent := by
  rw [significantFloat, found]

private theorem isShort_of_le (kept : 0 < count) {m : ℕ} (short : m ≤ 10 ^ count)
    (negative : Bool) (k : ℤ) :
    IsShort count (floatOfDecimal negative m k) := by
  rcases short.lt_or_eq with less | rfl
  · exact ⟨negative, m, k, less, rfl⟩
  · -- a power of ten has one digit
    refine ⟨negative, 1, k + count, Nat.one_lt_pow kept.ne' (by decide),
      floatOfDecimal_congr negative ?_⟩
    rw [zpow_add₀ (by norm_num), zpow_natCast]
    push_cast
    ring

private theorem Binary.numerator_pos (nonzero : 0 < b.mantissa) : 0 < b.numerator :=
  Nat.mul_pos nonzero (twoPower_pos _)

/-- Of the doubles with all their digits those stay as they are that are nearest to decimals with
few digits. -/
theorem significantFloat_eq_iff (kept : 0 < count) (few : count ≤ 14)
    (found : Binary.ofFloat? x = some b) (normal : 2 ^ 52 ≤ b.mantissa) :
    significantFloat count x = x ↔ IsShort count x := by
  have numerator_pos : 0 < b.numerator := Binary.numerator_pos (by omega)
  constructor
  · intro same
    rw [← same, significantFloat_of_ofFloat? found]
    exact isShort_of_le kept (coefficient_significantDecimal_le numerator_pos b.denominator_pos) _ _
  · rintro ⟨negative, m, k, short, rfl⟩
    obtain ⟨rfl, near⟩ := isVeryNear_of_floatOfDecimal found normal
    rw [significantFloat_of_ofFloat? found]
    exact floatOfDecimal_congr b.negative
      (toRat_significantDecimal few short numerator_pos b.denominator_pos near)

private theorem nearestFloat_zero (negative : Bool) (q : ℕ) :
    nearestFloat negative 0 q = packFloat negative 0 (-1074) := by
  rw [nearestFloat, if_pos rfl]

private theorem floatOfDecimal_zero (negative : Bool) (k : ℤ) :
    floatOfDecimal negative 0 k = packFloat negative 0 (-1074) := by
  rw [floatOfDecimal, if_pos (.inl rfl)]

private theorem significantFloat_zero (negative : Bool) :
    significantFloat count (packFloat negative 0 (-1074)) = packFloat negative 0 (-1074) := by
  have found := Binary.ofFloat?_packFloat_of_short negative (-1074) (by decide : 0 < 2 ^ 52)
  have numerator : Binary.numerator ⟨negative, 0, -1074⟩ = 0 := Nat.zero_mul _
  rw [significantFloat_of_ofFloat? found, numerator, coefficient_significantDecimal_zero,
    floatOfDecimal_zero]

/-- What is rounded to hundredths is a zero, or it has all its digits. -/
theorem zero_or_normal_of_isRounded (found : Binary.ofFloat? x = some b) (rounded : IsRounded x) :
    x = nearestFloat b.negative b.nearestHundredth 100 ∧
    (b.nearestHundredth = 0 ∨ 2 ^ 52 ≤ b.mantissa) := by
  have same : x = nearestFloat b.negative b.nearestHundredth 100 :=
    rounded.symm.trans (roundToHundredths_of_ofFloat? found)
  refine ⟨same, (Nat.eq_zero_or_pos b.nearestHundredth).imp_right fun positive => ?_⟩
  obtain ⟨m, e, packed, normal, less, e_ge, -⟩ :=
    exists_nearestFloat_eq_packFloat b.negative positive (by decide) (hundredths_large positive)
  rw [same, packed] at found
  rcases lt_or_ge e 972 with finite | endless
  · rw [Binary.ofFloat?_packFloat b.negative normal less (by omega) finite] at found
    rw [← Option.some.inj found]
    exact normal
  · rw [Binary.ofFloat?_packFloat_of_large b.negative normal endless] at found
    cases found

/-- Of the numbers that are rounded to hundredths those stay as they are that are nearest to
decimals with few digits. -/
theorem significantFloat_eq_iff_of_isRounded (kept : 0 < count) (few : count ≤ 14)
    (found : Binary.ofFloat? x = some b) (rounded : IsRounded x) :
    significantFloat count x = x ↔ IsShort count x := by
  obtain ⟨same, zero | normal⟩ := zero_or_normal_of_isRounded found rounded
  · rw [zero, nearestFloat_zero] at same
    rw [same]
    exact iff_of_true (significantFloat_zero b.negative)
      ⟨b.negative, 0, 0, by positivity, (floatOfDecimal_zero b.negative 0).symm⟩
  · exact significantFloat_eq_iff kept few found normal

/-- The numbers that are rounded to hundredths have few digits if they are not too large. -/
theorem isShort_of_isRounded (kept : 0 < count) (few : count ≤ 14)
    (found : Binary.ofFloat? x = some b) (rounded : IsRounded x)
    (small : 100 * |b.toRat| ≤ 10 ^ count) : IsShort count x := by
  obtain ⟨same, -⟩ := zero_or_normal_of_isRounded found rounded
  have short : b.nearestHundredth ≤ 10 ^ count := by
    refine roundedQuotient_le b.denominator_pos ?_
    rw [b.hundredfold, ← b.numerator_div_denominator, ← b.abs_toRat]
    exact_mod_cast small
  -- the number of hundredths is the coefficient of a decimal that is near enough to be read at all
  have decimal : floatOfDecimal b.negative b.nearestHundredth (-2) = x := by
    rw [same]
    rcases Nat.eq_zero_or_pos b.nearestHundredth with zero | positive
    · rw [zero, floatOfDecimal_zero, nearestFloat_zero]
    · have digits : (Nat.toDigits 10 b.nearestHundredth).length ≤ count + 1 :=
        (Nat.length_toDigits_le_iff (by decide) (by omega)).2
          (short.trans_lt (Nat.pow_lt_pow_right (by decide) (by omega)))
      unfold floatOfDecimal
      dsimp only
      rw [if_neg (by omega), if_neg (by omega)]
      exact congrArg (nearestFloat b.negative · 100) (Nat.mul_one _)
  rw [← decimal]
  exact isShort_of_le kept short _ _

end Few

end CurveBoard
