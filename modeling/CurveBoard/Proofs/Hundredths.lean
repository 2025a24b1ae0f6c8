import CurveBoard.Proofs.Binary

/-!
# Doubles nearest to hundredths

Hundredths are no doubles, so what is rounded to hundredths is the double nearest to a whole number
of hundredths. Rounding it again gives the same double. Where doubles are closer together than
hundredths, no other whole number of hundredths is as near to it. Where they are farther apart, each
whole number of hundredths that is nearest to it is so near that it is the double nearest to that
one, too.
-/
namespace CurveBoard

/-! ### Rounded quotients -/

/-- Distances on a grid are distances of numbers, in steps of the grid. -/
theorem abs_sub_div {K : Type} [Field K] [LinearOrder K] [IsStrictOrderedRing K] {step : K}
    (positive : 0 < step) (n x : K) : |n - x / step| = |n * step - x| / step := by
  rw [← abs_of_pos positive, ← abs_div, abs_of_pos positive, sub_div,
    mul_div_cancel_right₀ _ positive.ne']

private theorem abs_roundedQuotient_sub_le {q : Nat} (positive : 0 < q) (p : Nat) :
    |(roundedQuotient p q : ℚ) - p / q| ≤ 1 / 2 := by
  have q_pos : (0 : ℚ) < q := Nat.cast_pos.2 positive
  have rest_lt : p % q < q := Nat.mod_lt p positive
  have whole : q * (p / q) + p % q = p := Nat.div_add_mod p q
  have bounds : 2 * p ≤ (2 * roundedQuotient p q + 1) * q ∧
      2 * roundedQuotient p q * q ≤ 2 * p + q := by
    unfold roundedQuotient
    dsimp only
    generalize p / q = n, p % q = rest at rest_lt whole
    subst whole
    split
    next up =>
      have half : q ≤ 2 * rest := by omega
      constructor <;> linarith
    next down =>
      have half : 2 * rest ≤ q := by omega
      constructor <;> linarith
  have low : (2 * p : ℚ) ≤ (2 * roundedQuotient p q + 1) * q := by exact_mod_cast bounds.1
  have high : (2 * roundedQuotient p q * q : ℚ) ≤ 2 * p + q := by exact_mod_cast bounds.2
  rw [abs_sub_le_iff, sub_le_iff_le_add, ← sub_le_iff_le_add', le_div_iff₀ q_pos,
    sub_le_iff_le_add, div_le_iff₀ q_pos]
  constructor <;> linarith

/-- The natural number that is less than a half away is the rounded quotient. -/
theorem roundedQuotient_eq {p q m : Nat} (positive : 0 < q) (near : |(m : ℚ) - p / q| < 1 / 2) :
    roundedQuotient p q = m := by
  have rounded := abs_roundedQuotient_sub_le positive p
  rw [abs_sub_le_iff] at rounded
  rw [abs_sub_lt_iff] at near
  have below : (roundedQuotient p q : ℚ) < m + 1 := by linarith
  have above : (m : ℚ) < roundedQuotient p q + 1 := by linarith
  have below' : roundedQuotient p q < m + 1 := by exact_mod_cast below
  have above' : m < roundedQuotient p q + 1 := by exact_mod_cast above
  omega

/-- A whole number that a quotient does not fall below, its rounding does not fall below either. -/
theorem le_roundedQuotient {p q m : Nat} (positive : 0 < q) (at_least : (m : ℚ) ≤ p / q) :
    m ≤ roundedQuotient p q := by
  have rounded := abs_roundedQuotient_sub_le positive p
  rw [abs_sub_le_iff] at rounded
  have above : (m : ℚ) < roundedQuotient p q + 1 := by linarith
  have above' : m < roundedQuotient p q + 1 := by exact_mod_cast above
  omega

/-- A whole number that a quotient does not exceed, its rounding does not exceed either. -/
theorem roundedQuotient_le {p q m : Nat} (positive : 0 < q) (at_most : (p : ℚ) / q ≤ m) :
    roundedQuotient p q ≤ m := by
  have rounded := abs_roundedQuotient_sub_le positive p
  rw [abs_sub_le_iff] at rounded
  have below : (roundedQuotient p q : ℚ) < m + 1 := by linarith
  have below' : roundedQuotient p q < m + 1 := by exact_mod_cast below
  omega

/-! ### Powers of two -/

theorem two_zpow_pos (e : Int) : (0 : ℚ) < 2 ^ e := zpow_pos two_pos e

private theorem two_zpow_eq_div (e : Int) : (2 : ℚ) ^ e = 2 ^ e.toNat / 2 ^ (-e).toNat := by
  rcases Int.le_total 0 e with up | down
  · obtain ⟨k, rfl⟩ := Int.eq_ofNat_of_zero_le up
    simp
  · obtain ⟨k, same⟩ := Int.eq_ofNat_of_zero_le (Int.neg_nonneg_of_nonpos down)
    obtain rfl : e = -k := by omega
    simp

/-- A quotient on the grid of a power of two. -/
theorem div_shifted (p q : Nat) (e : Int) :
    ((p * twoPower (-e).toNat : Nat) : ℚ) / (q * twoPower e.toNat : Nat) = p / q / 2 ^ e := by
  rw [twoPower_eq, twoPower_eq, two_zpow_eq_div]
  push_cast
  rw [div_div_div_eq]

theorem Binary.numerator_div_denominator (b : Binary) :
    (b.numerator : ℚ) / b.denominator = b.mantissa * 2 ^ b.exponent := by
  rw [numerator, denominator, twoPower_eq, twoPower_eq, two_zpow_eq_div]
  push_cast
  rw [mul_div_assoc]

theorem Binary.toRat_eq (b : Binary) :
    b.toRat = if b.negative then -((b.numerator : ℚ) / b.denominator)
      else b.numerator / b.denominator := by
  unfold toRat
  dsimp only
  rw [Rat.mkRat_eq_div]
  rfl

theorem Binary.abs_toRat (b : Binary) : |b.toRat| = b.numerator / b.denominator := by
  have nonneg : (0 : ℚ) ≤ b.numerator / b.denominator := by positivity
  rw [b.toRat_eq]
  split
  · rw [abs_neg, abs_of_nonneg nonneg]
  · rw [abs_of_nonneg nonneg]

section Quotients

variable {p q : Nat} {e : Int}

private theorem shifted_lt_iff (q_pos : 0 < q) :
    p * twoPower (-e).toNat < q * twoPower e.toNat ↔ (p : ℚ) / q < 2 ^ e := by
  have shifted_pos : (0 : ℚ) < (q * twoPower e.toNat : Nat) :=
    Nat.cast_pos.2 (Nat.mul_pos q_pos (twoPower_pos _))
  rw [← div_lt_one (two_zpow_pos e), ← div_shifted, div_lt_one shifted_pos, Nat.cast_lt]

theorem binaryExponent_spec (p_pos : 0 < p) (q_pos : 0 < q) :
    (2 : ℚ) ^ binaryExponent p q ≤ p / q ∧ (p : ℚ) / q < 2 ^ (binaryExponent p q + 1) := by
  have q_pos' : (0 : ℚ) < q := Nat.cast_pos.2 q_pos
  -- the difference of the exponents is right or one too large
  have at_least : (2 : ℚ) ^ ((p.log2 : Int) - q.log2 - 1) ≤ p / q := by
    have p_low : (2 : ℚ) ^ p.log2 ≤ p := by exact_mod_cast Nat.log2_self_le p_pos.ne'
    have q_high : (q : ℚ) ≤ 2 ^ (q.log2 + 1) := by exact_mod_cast (Nat.lt_log2_self (n := q)).le
    have exponent : (p.log2 : Int) - q.log2 - 1 = (p.log2 : Int) - (q.log2 + 1 : Nat) := by
      push_cast
      ring
    rw [exponent, zpow_sub₀ two_ne_zero, zpow_natCast, zpow_natCast]
    exact div_le_div₀ (Nat.cast_nonneg p) p_low q_pos' q_high
  have less : (p : ℚ) / q < 2 ^ ((p.log2 : Int) - q.log2 + 1) := by
    have p_high : (p : ℚ) < 2 ^ (p.log2 + 1) := by exact_mod_cast Nat.lt_log2_self (n := p)
    have q_low : (2 : ℚ) ^ q.log2 ≤ q := by exact_mod_cast Nat.log2_self_le q_pos.ne'
    have exponent : (p.log2 : Int) - q.log2 + 1 = ((p.log2 + 1 : Nat) : Int) - q.log2 := by
      push_cast
      ring
    rw [exponent, zpow_sub₀ two_ne_zero, zpow_natCast, zpow_natCast]
    exact div_lt_div₀ p_high q_low (by positivity) (by positivity)
  unfold binaryExponent
  dsimp only
  split
  next large =>
    rw [shifted_lt_iff q_pos] at large
    rw [Int.sub_add_cancel]
    exact ⟨at_least, large⟩
  next right =>
    rw [shifted_lt_iff q_pos, not_lt] at right
    exact ⟨right, less⟩

theorem binaryExponent_eq (p_pos : 0 < p) (q_pos : 0 < q) (at_least : (2 : ℚ) ^ e ≤ p / q)
    (less : (p : ℚ) / q < 2 ^ (e + 1)) : binaryExponent p q = e := by
  obtain ⟨low, high⟩ := binaryExponent_spec p_pos q_pos
  have below := (zpow_lt_zpow_iff_right₀ one_lt_two).1 (low.trans_lt less)
  have above := (zpow_lt_zpow_iff_right₀ one_lt_two).1 (at_least.trans_lt high)
  omega

/-! ### Nearest doubles -/

/-- The step of the grid of a power of two that is nearest to a quotient. -/
def nearestStep (p q : Nat) (e : Int) : Nat :=
  roundedQuotient (p * twoPower (-e).toNat) (q * twoPower e.toNat)

theorem abs_nearestStep_sub_le (q_pos : 0 < q) (p : Nat) (e : Int) :
    |(nearestStep p q e : ℚ) * 2 ^ e - p / q| ≤ 2 ^ e / 2 := by
  have step_pos := two_zpow_pos e
  have near :=
    abs_roundedQuotient_sub_le (Nat.mul_pos q_pos (twoPower_pos e.toNat)) (p * twoPower (-e).toNat)
  rw [div_shifted, abs_sub_div step_pos, div_le_iff₀ step_pos] at near
  exact near.trans_eq (by ring)

private theorem nearestStep_eq {m : Nat} (q_pos : 0 < q)
    (near : |(m : ℚ) * 2 ^ e - p / q| < 2 ^ e / 2) :
    nearestStep p q e = m := by
  have step_pos := two_zpow_pos e
  refine roundedQuotient_eq (Nat.mul_pos q_pos (twoPower_pos _)) ?_
  rw [div_shifted, abs_sub_div step_pos, div_lt_iff₀ step_pos]
  exact near.trans_eq (by ring)

/-- The nearest double to a quotient whose exponent is known, and is not so small that doubles have
fewer digits. -/
theorem nearestFloat_of_exponent (negative : Bool) (p_pos : 0 < p) (q_pos : 0 < q)
    (normal : -1074 ≤ e) (at_least : (2 : ℚ) ^ (e + 52) ≤ p / q)
    (less : (p : ℚ) / q < 2 ^ (e + 53)) :
    nearestFloat negative p q =
      if nearestStep p q e = 2 ^ 53 then packFloat negative (2 ^ 52) (e + 1)
      else packFloat negative (nearestStep p q e) e := by
  have exponent : max (binaryExponent p q - 52) (-1074) = e := by
    rw [binaryExponent_eq (e := e + 52) p_pos q_pos at_least (by rwa [Int.add_assoc])]
    omega
  unfold nearestFloat
  rw [if_neg p_pos.ne', exponent]
  rfl

/-- A quotient that is not too small is at most half a step away from its nearest double. -/
theorem exists_nearestFloat_eq_packFloat (negative : Bool) (p_pos : 0 < p) (q_pos : 0 < q)
    (large : (2 : ℚ) ^ (-1022 : Int) ≤ p / q) :
    ∃ (m : Nat) (e : Int), nearestFloat negative p q = packFloat negative m e ∧
      2 ^ 52 ≤ m ∧ m < 2 ^ 53 ∧ -1074 ≤ e ∧
      |(m : ℚ) * 2 ^ e - p / q| ≤ 2 ^ e / 2 := by
  obtain ⟨low, high⟩ := binaryExponent_spec p_pos q_pos
  obtain ⟨e, same⟩ : ∃ e : Int, binaryExponent p q = e + 52 :=
    ⟨_, (Int.sub_add_cancel _ 52).symm⟩
  rw [same] at low high
  rw [Int.add_assoc] at high
  have normal : -1074 ≤ e := by
    have := (zpow_lt_zpow_iff_right₀ one_lt_two).1 (large.trans_lt high)
    omega
  have step_pos := two_zpow_pos e
  have near := abs_nearestStep_sub_le q_pos p e
  rw [nearestFloat_of_exponent negative p_pos q_pos normal low high]
  have at_least : 2 ^ 52 ≤ nearestStep p q e := by
    refine le_roundedQuotient (Nat.mul_pos q_pos (twoPower_pos _)) ?_
    rw [div_shifted, le_div_iff₀ step_pos, mul_comm]
    rw [zpow_add₀ two_ne_zero] at low
    exact_mod_cast low
  have at_most : nearestStep p q e < 2 ^ 53 + 1 := by
    have bound : (nearestStep p q e : ℚ) * 2 ^ e < (2 ^ 53 + 1) * 2 ^ e := by
      rw [zpow_add₀ two_ne_zero] at high
      have above := (abs_sub_le_iff.1 near).1
      norm_num at high ⊢
      linarith
    exact_mod_cast lt_of_mul_lt_mul_right bound step_pos.le
  split
  next full =>
    -- rounded up to a power of two, which is written with the exponent above
    refine ⟨2 ^ 52, e + 1, rfl, le_rfl, by decide, by omega, ?_⟩
    have same : ((2 ^ 52 : Nat) : ℚ) * 2 ^ (e + 1) = nearestStep p q e * 2 ^ e := by
      rw [full, zpow_add₀ two_ne_zero]
      norm_num
      ring
    rw [same, zpow_add₀ two_ne_zero]
    norm_num
    linarith
  next short =>
    exact ⟨nearestStep p q e, e, rfl, at_least, by omega, normal, near⟩

/-- A double with all its digits is the nearest one to every quotient with its exponent that is less
than half a step away. -/
theorem nearestFloat_eq_packFloat (negative : Bool) {m : Nat} (p_pos : 0 < p) (q_pos : 0 < q)
    (normal : -1074 ≤ e) (at_least : (2 : ℚ) ^ (e + 52) ≤ p / q)
    (less : (p : ℚ) / q < 2 ^ (e + 53)) (m_lt : m < 2 ^ 53)
    (near : |(m : ℚ) * 2 ^ e - p / q| < 2 ^ e / 2) :
    nearestFloat negative p q = packFloat negative m e := by
  rw [nearestFloat_of_exponent negative p_pos q_pos normal at_least less, nearestStep_eq q_pos near,
    if_neg m_lt.ne]

end Quotients

/-! ### Hundredths -/

/-- A double beyond the largest exponent is an infinity. -/
theorem Binary.ofFloat?_packFloat_of_large (negative : Bool) {m : Nat} {e : Int}
    (normal : 2 ^ 52 ≤ m) (large : 972 ≤ e) : ofFloat? (packFloat negative m e) = none := by
  have hidden : twoPower 52 = 2 ^ 52 := rfl
  unfold packFloat
  dsimp only
  rw [if_neg (by omega), if_pos (by omega)]
  cases negative <;> decide +kernel

section Hundredths

variable {m n : Nat} {e : Int}

/-- The whole number of hundredths that is nearest to a double. -/
def Binary.nearestHundredth (b : Binary) : Nat := roundedQuotient (b.numerator * 100) b.denominator

theorem Binary.hundredfold (b : Binary) :
    ((b.numerator * 100 : Nat) : ℚ) / b.denominator = 100 * (b.mantissa * 2 ^ b.exponent) := by
  rw [← numerator_div_denominator]
  push_cast
  ring

theorem roundToHundredths_of_ofFloat? {x : Float} {b : Binary}
    (found : Binary.ofFloat? x = some b) :
    roundToHundredths x = nearestFloat b.negative b.nearestHundredth 100 := by
  rw [roundToHundredths, found]
  rfl

/-- Where doubles are closer together than hundredths, a double that is nearest to a number of
hundredths is not as near to any other. -/
theorem nearestHundredth_of_dense {negative : Bool} (dense : e < -6)
    (near : |(m : ℚ) * 2 ^ e - n / 100| ≤ 2 ^ e / 2) :
    Binary.nearestHundredth ⟨negative, m, e⟩ = n := by
  have step_le : (2 : ℚ) ^ e ≤ 2 ^ (-7 : Int) :=
    (zpow_le_zpow_iff_right₀ one_lt_two).2 (by omega)
  norm_num at step_le
  refine roundedQuotient_eq (Binary.denominator_pos _) ?_
  rw [Binary.hundredfold]
  rw [abs_sub_le_iff] at near
  rw [abs_sub_lt_iff]
  constructor <;> linarith

/-- Where doubles are farther apart than hundredths, a double is the nearest one to the number of
hundredths that is nearest to it. -/
theorem nearestFloat_nearestHundredth (negative : Bool) (sparse : -6 ≤ e) (normal : 2 ^ 52 ≤ m)
    (m_lt : m < 2 ^ 53) :
    nearestFloat negative (Binary.nearestHundredth ⟨negative, m, e⟩) 100 =
      packFloat negative m e := by
  have step_ge : (2 : ℚ) ^ (-6 : Int) ≤ 2 ^ e := (zpow_le_zpow_iff_right₀ one_lt_two).2 sparse
  norm_num at step_ge
  generalize hundredth : Binary.nearestHundredth ⟨negative, m, e⟩ = k
  have near : |(k : ℚ) - 100 * (m * 2 ^ e)| ≤ 1 / 2 := by
    rw [← hundredth, ← Binary.hundredfold ⟨negative, m, e⟩]
    exact abs_roundedQuotient_sub_le (Binary.denominator_pos _) _
  rw [abs_sub_le_iff] at near
  have least : (2 ^ 52 : ℚ) * 2 ^ e ≤ m * 2 ^ e :=
    mul_le_mul_of_nonneg_right (by exact_mod_cast normal) (two_zpow_pos e).le
  have most : (m + 1 : ℚ) * 2 ^ e ≤ 2 ^ 53 * 2 ^ e :=
    mul_le_mul_of_nonneg_right (by exact_mod_cast m_lt) (two_zpow_pos e).le
  -- the least double with this exponent is whole, so rounding does not get below it
  have at_least : 100 * (2 : ℚ) ^ (e + 52) ≤ k := by
    obtain ⟨t, whole⟩ : ∃ t : Nat, e + 52 = t := ⟨(e + 52).toNat, by omega⟩
    have low : 100 * 2 ^ t ≤ k := by
      rw [← hundredth]
      refine le_roundedQuotient (Binary.denominator_pos _) ?_
      rw [Binary.hundredfold]
      push_cast
      rw [← zpow_natCast, ← whole, zpow_add₀ two_ne_zero]
      norm_num at least ⊢
      linarith
    rw [whole, zpow_natCast]
    exact_mod_cast low
  have less : (k : ℚ) < 100 * 2 ^ (e + 53) := by
    rw [zpow_add₀ two_ne_zero]
    norm_num at most ⊢
    linarith
  have k_pos : 0 < k := by
    have := two_zpow_pos (e + 52)
    exact_mod_cast (by linarith : (0 : ℚ) < k)
  refine nearestFloat_eq_packFloat negative k_pos (by decide) (by omega) ?_ ?_ m_lt ?_
  · rw [Nat.cast_ofNat]
    linarith
  · rw [Nat.cast_ofNat]
    linarith
  · rw [Nat.cast_ofNat, abs_sub_lt_iff]
    constructor <;> linarith

theorem hundredths_large (positive : 0 < n) : (2 : ℚ) ^ (-1022 : Int) ≤ n / (100 : Nat) := by
  have one_le : (1 : ℚ) ≤ n := by exact_mod_cast positive
  have small : (2 : ℚ) ^ (-1022 : Int) ≤ 2 ^ (-7 : Int) :=
    (zpow_le_zpow_iff_right₀ one_lt_two).2 (by decide)
  refine small.trans ?_
  norm_num
  linarith

/-- What has been rounded to hundredths stays as it is when it is rounded again. -/
theorem roundToHundredths_nearestFloat (negative : Bool) (n : Nat) :
    roundToHundredths (nearestFloat negative n 100) = nearestFloat negative n 100 := by
  rcases Nat.eq_zero_or_pos n with rfl | positive
  · cases negative <;> decide +kernel
  obtain ⟨m, e, packed, normal, m_lt, e_ge, near⟩ :=
    exists_nearestFloat_eq_packFloat negative positive (by decide) (hundredths_large positive)
  rcases lt_or_ge e 972 with finite | endless
  · have found := Binary.ofFloat?_packFloat negative normal m_lt (by omega) finite
    rw [packed, roundToHundredths_of_ofFloat? found]
    rcases lt_or_ge e (-6) with dense | sparse
    · rw [nearestHundredth_of_dense dense (by exact_mod_cast near), packed]
    · exact nearestFloat_nearestHundredth negative sparse normal m_lt
  · rw [packed, roundToHundredths, Binary.ofFloat?_packFloat_of_large negative normal endless]

end Hundredths

/-! ### Rounded numbers -/

/-- A number that rounding to hundredths leaves as it is. -/
def IsRounded (x : Float) : Prop := Scalar.hundredths x = x

instance (x : Float) : Decidable (IsRounded x) :=
  inferInstanceAs (Decidable (Scalar.hundredths x = x))

private theorem isRounded_of_ofFloat? {x : Float} (endless : Binary.ofFloat? x = none) :
    IsRounded x := by
  change roundToHundredths x = x
  rw [roundToHundredths, endless]

@[simp] theorem isRounded_hundredths (x : Float) : IsRounded (Scalar.hundredths x) := by
  change IsRounded (roundToHundredths x)
  cases found : Binary.ofFloat? x with
  | none =>
    have same : roundToHundredths x = x := isRounded_of_ofFloat? found
    rw [same]
    exact same
  | some b =>
    rw [roundToHundredths_of_ofFloat? found]
    exact roundToHundredths_nearestFloat _ _

@[simp] theorem isRounded_arrayHundredths (x : Float) : IsRounded (Scalar.arrayHundredths x) := by
  change IsRounded (roundHundredfold x)
  unfold roundHundredfold
  dsimp only
  split
  next endless => exact isRounded_of_ofFloat? endless
  next => exact roundToHundredths_nearestFloat _ _

@[simp] theorem isRounded_zero : IsRounded 0.0 := by
  change roundToHundredths 0.0 = 0.0
  decide +kernel

end CurveBoard
