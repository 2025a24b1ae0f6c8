import CurveBoard.Proofs.Hundredths

/-!
# Sums of doubles

A sum of doubles is rounded, and rounding keeps order: what is at least a double is rounded to at
least that double, and what is at most a double to at most that double. So adding something that is
not negative does not give less, though it may give the same.

Doubles are compared by their exponents first and then by their mantissas. That is the order of the
numbers because the leading digit of a mantissa has its usual place wherever the exponent is not the
least one.
-/
namespace CurveBoard

open Float.Model UnpackedFloat

/-- Whether a mantissa and an exponent are as a double has them, but for the exponent being too
large. -/
structure IsCanonical (mantissa : Nat) (exponent : Int) : Prop where
  short : mantissa < 2 ^ 53
  least : -1074 ≤ exponent
  leading : 2 ^ 52 ≤ mantissa ∨ exponent = -1074

/-- Whether a mantissa and an exponent are at most others, as doubles are compared. -/
def AtMost (m : Nat) (e : Int) (m' : Nat) (e' : Int) : Prop := e < e' ∨ e = e' ∧ m ≤ m'

theorem mantissa_pos {m : Nat} {e : Int} (positive : (0 : ℚ) < m * 2 ^ e) : 0 < m := by
  exact_mod_cast pos_of_mul_pos_left positive (two_zpow_pos e).le

theorem scaled_pos {m : Nat} (some : 0 < m) (e : Int) : (0 : ℚ) < m * 2 ^ e :=
  mul_pos (by exact_mod_cast some) (two_zpow_pos e)

theorem AtMost.antisymm {m m' : Nat} {e e' : Int} (le : AtMost m e m' e') (ge : AtMost m' e' m e) :
    m = m' ∧ e = e' := by
  unfold AtMost at le ge
  omega

/-! ### Digits that are dropped -/

private theorem shiftRight_succ (em : ExtendedMantissa) (k : Nat) :
    em >>> (k + 1) = (em >>> k).shiftRightOne := rfl

/-- When some digits of a mantissa are dropped, the first of them is noted, and whether any other is
not zero. -/
theorem shiftRight_digits (m k : Nat) :
    (⟨m, false, false⟩ : ExtendedMantissa) >>> (k + 1) =
      ⟨m / 2 ^ (k + 1), m / 2 ^ k % 2 != 0, m % 2 ^ k != 0⟩ := by
  induction k with
  | zero =>
    rw [Nat.pow_zero, Nat.mod_one, Nat.div_one]
    rfl
  | succ k ih =>
    have digits : m % 2 ^ (k + 1) = m % 2 ^ k + 2 ^ k * (m / 2 ^ k % 2) := by
      rw [Nat.pow_succ, Nat.mod_mul]
    have unit_pos := Nat.two_pow_pos k
    rw [shiftRight_succ, ih, ExtendedMantissa.shiftRightOne, Nat.pow_succ _ (k + 1),
      ← Nat.div_div_eq_div_mul]
    congr 1
    rw [Bool.eq_iff_iff]
    simp only [Bool.or_eq_true, bne_iff_ne, digits]
    rcases Nat.mod_two_eq_zero_or_one (m / 2 ^ k) with even | odd
    · rw [even]
      omega
    · rw [odd]
      omega

/-- The digits of a mantissa that are left when some are dropped, and whether that is half a digit
or more. -/
theorem shiftRight_exact (m k : Nat) :
    let shifted := (⟨m, false, false⟩ : ExtendedMantissa) >>> k
    shifted.mantissa = m / 2 ^ k ∧ (shifted.roundBit = true ↔ 2 ^ k ≤ 2 * (m % 2 ^ k)) := by
  cases k with
  | zero => exact ⟨(Nat.div_one m).symm, by simp [Nat.mod_one]; rfl⟩
  | succ k =>
    have digits : m % 2 ^ (k + 1) = m % 2 ^ k + 2 ^ k * (m / 2 ^ k % 2) := by
      rw [Nat.pow_succ, Nat.mod_mul]
    have less : m % 2 ^ k < 2 ^ k := Nat.mod_lt _ (Nat.two_pow_pos k)
    rw [shiftRight_digits]
    refine ⟨rfl, ?_⟩
    rw [bne_iff_ne, digits, Nat.pow_succ]
    rcases Nat.mod_two_eq_zero_or_one (m / 2 ^ k) with even | odd
    · rw [even]
      omega
    · rw [odd]
      omega

/-- A mantissa is rounded to itself or to the next one, and that only if half a digit or more is
dropped. -/
theorem roundedMantissa_bounds (em : ExtendedMantissa) :
    em.mantissa ≤ em.roundedMantissa ∧ em.roundedMantissa ≤ em.mantissa + 1 ∧
      (em.roundBit = false → em.roundedMantissa = em.mantissa) := by
  obtain ⟨mantissa, roundBit, stickyBit⟩ := em
  cases roundBit <;> cases stickyBit <;>
    simp [ExtendedMantissa.roundedMantissa, ExtendedMantissa.accuracy, Accuracy.roundToNearestEven]
  omega

/-- The digits of a number down to a place, the last one rounded. -/
def roundedDigits (m : Nat) (e place : Int) : Nat :=
  ((⟨m <<< (e - place).toNat, false, false⟩ : ExtendedMantissa) >>>
    (place - e).toNat).roundedMantissa

/-- A number in units of a place that is not above its own. -/
theorem cast_shifted (n : Nat) (place e : Int) :
    (n : ℚ) * 2 ^ place = (n * 2 ^ (place - e).toNat : Nat) * 2 ^ min place e := by
  have split : place = (place - e).toNat + min place e := by omega
  rw [split, zpow_add₀ two_ne_zero, zpow_natCast, ← split]
  push_cast
  ring

private theorem shifted_le_iff (n m : Nat) (e place : Int) :
    n * 2 ^ (place - e).toNat ≤ m * 2 ^ (e - place).toNat ↔
      (n : ℚ) * 2 ^ place ≤ m * 2 ^ e := by
  rw [cast_shifted n place e, cast_shifted m e place, min_comm e place,
    mul_le_mul_iff_left₀ (two_zpow_pos _), Nat.cast_le]

private theorem le_roundedDigits {n m : Nat} {e place : Int}
    (at_most : (n : ℚ) * 2 ^ place ≤ m * 2 ^ e) :
    n ≤ roundedDigits m e place := by
  rw [← shifted_le_iff, ← Nat.le_div_iff_mul_le (Nat.two_pow_pos _), ← Nat.shiftLeft_eq,
    ← (shiftRight_exact _ _).1] at at_most
  exact at_most.trans (roundedMantissa_bounds _).1

/-- What is less than half a digit more than a number is rounded to at most that. -/
theorem roundedDigits_le_of_lt {n m : Nat} {e place : Int}
    (less : (m : ℚ) * 2 ^ e < (n + 1 / 2) * 2 ^ place) :
    roundedDigits m e place ≤ n := by
  have less : 2 * (m <<< (e - place).toNat) < (2 * n + 1) * 2 ^ (place - e).toNat := by
    rw [Nat.shiftLeft_eq, ← Nat.mul_assoc, ← not_le, shifted_le_iff, not_le]
    push_cast
    linarith
  obtain ⟨kept, half⟩ := shiftRight_exact (m <<< (e - place).toNat) (place - e).toNat
  obtain ⟨-, next, exact⟩ := roundedMantissa_bounds
    ((⟨m <<< (e - place).toNat, false, false⟩ : ExtendedMantissa) >>> (place - e).toNat)
  have whole := Nat.div_add_mod (m <<< (e - place).toNat) (2 ^ (place - e).toNat)
  unfold roundedDigits
  rw [kept] at next exact
  generalize m <<< (e - place).toNat = shifted at *
  generalize 2 ^ (place - e).toNat = unit at *
  rcases lt_or_ge (shifted / unit) n with below | above
  · exact next.trans below
  · -- less than half a digit is dropped
    have digits : unit * n ≤ unit * (shifted / unit) := Nat.mul_le_mul_left _ above
    have expanded : (2 * n + 1) * unit = 2 * (unit * n) + unit := by ring
    have rest : ¬ unit ≤ 2 * (shifted % unit) := by omega
    rw [exact (Bool.eq_false_iff.2 (mt half.1 rest))]
    refine Nat.le_of_lt_succ (Nat.lt_of_mul_lt_mul_left (a := unit) ?_)
    rw [Nat.mul_succ]
    omega

private theorem roundedDigits_le {n m : Nat} {e place : Int}
    (at_least : (m : ℚ) * 2 ^ e ≤ n * 2 ^ place) :
    roundedDigits m e place ≤ n :=
  roundedDigits_le_of_lt
    (at_least.trans_lt (mul_lt_mul_of_pos_right (by norm_num) (two_zpow_pos place)))

/-! ### Rounding to a place -/

/-- The place that a number is rounded at. -/
def lastPlace (m : Nat) (e : Int) : Int := max (m.log2 + e - 52) (-1074)

theorem targetExponent_eq (m : Nat) (e : Int) :
    Format.binary64.targetExponent (totalExponent m e) = lastPlace m e := by
  simp only [Format.targetExponent, totalExponent, Format.mantissaBits,
    Format.minExponent, lastPlace]
  norm_num
  omega

/-- Down to the last place a number has at most 53 digits. -/
theorem lt_lastPlace (m : Nat) (e : Int) : (m : ℚ) * 2 ^ e < 2 ^ 53 * 2 ^ lastPlace m e := by
  have digits : (m : ℚ) < 2 ^ (m.log2 + 1) := by exact_mod_cast Nat.lt_log2_self
  calc (m : ℚ) * 2 ^ e < 2 ^ (m.log2 + 1) * 2 ^ e :=
    mul_lt_mul_of_pos_right digits (two_zpow_pos e)
    _ = 2 ^ ((m.log2 + 1 : Nat) + e : Int) := by rw [zpow_add₀ two_ne_zero, zpow_natCast]
    _ ≤ 2 ^ ((53 : Nat) + lastPlace m e : Int) :=
      zpow_le_zpow_right₀ one_le_two (by unfold lastPlace; omega)
    _ = 2 ^ 53 * 2 ^ lastPlace m e := by rw [zpow_add₀ two_ne_zero, zpow_natCast]

/-- It has no less, unless that is the least place. -/
theorem lastPlace_le {m : Nat} {e : Int} (positive : 0 < m) (above : -1074 < lastPlace m e) :
    2 ^ 52 * 2 ^ lastPlace m e ≤ (m : ℚ) * 2 ^ e := by
  have digits : (2 : ℚ) ^ m.log2 ≤ m := by exact_mod_cast Nat.log2_self_le positive.ne'
  calc (2 : ℚ) ^ 52 * 2 ^ lastPlace m e = 2 ^ ((52 : Nat) + lastPlace m e : Int) := by
        rw [zpow_add₀ two_ne_zero, zpow_natCast]
    _ = 2 ^ ((m.log2 : Int) + e) := by congr 1; unfold lastPlace at above ⊢; omega
    _ = 2 ^ m.log2 * 2 ^ e := by rw [zpow_add₀ two_ne_zero, zpow_natCast]
    _ ≤ (m : ℚ) * 2 ^ e := mul_le_mul_of_nonneg_right digits (two_zpow_pos e).le

/-- What rounding gives, by the rounded digits: a carry may move the last place. -/
inductive RoundsTo (sign : Sign) (digits : Nat) (place : Int) : UnpackedFloat → Prop
  | zero (none : digits = 0) : RoundsTo sign digits place (.zero sign)
  | finite (some : 0 < digits) (short : digits < 2 ^ 53) :
      RoundsTo sign digits place (.finite sign digits place some)
  | carry (some : 0 < 2 ^ 52) (full : digits = 2 ^ 53) :
    RoundsTo sign digits place (.finite sign (2 ^ 52) (place + 1) some)

private theorem shiftToTargetExponent_exact (m : Nat) (e : Int) :
    shiftToTargetExponent Format.binary64 m e .exact =
      ((⟨m, false, false⟩ : ExtendedMantissa) >>> (lastPlace m e - e).toNat,
        e + (lastPlace m e - e).toNat) := by
  unfold shiftToTargetExponent
  rw [targetExponent_eq]
  rfl

/-- Puts rounded digits together. -/
def ofRounded (sign : Sign) (digits : Nat) (place : Int) : UnpackedFloat :=
  let (kept, exponent) := shiftToTargetExponent Format.binary64 digits place .exact
  if some : kept.mantissa = 0 then .zero sign
    else .finite sign kept.mantissa exponent (Nat.pos_of_ne_zero some)

private theorem ofRounded_roundsTo (sign : Sign) {digits : Nat} {place : Int}
    (at_most : digits ≤ 2 ^ 53) (least : -1074 ≤ place) :
    RoundsTo sign digits place (ofRounded sign digits place) := by
  unfold ofRounded
  rw [shiftToTargetExponent_exact]
  rcases at_most.lt_or_eq with short | rfl
  · -- there is nothing to carry
    have few : digits.log2 ≤ 52 := by
      rcases digits.eq_zero_or_pos with rfl | some
      · simp
      · exact Nat.le_of_lt_succ ((Nat.log2_lt some.ne').2 short)
    have stay : (lastPlace digits place - place).toNat = 0 := by unfold lastPlace; omega
    rw [stay]
    dsimp only
    split
    next none => exact .zero none
    next some =>
      rw [Int.natCast_zero, Int.add_zero]
      exact .finite (Nat.pos_of_ne_zero some) short
  · have stay : (lastPlace (2 ^ 53) place - place).toNat = 1 := by
      unfold lastPlace
      rw [Nat.log2_two_pow]
      omega
    rw [stay]
    exact .carry (Nat.two_pow_pos 52) rfl

private theorem log2_shiftLeft {m : Nat} (positive : 0 < m) (k : Nat) :
    (m <<< k).log2 = m.log2 + k := by
  rw [Nat.shiftLeft_eq, Nat.log2_eq_iff (by positivity), Nat.add_right_comm, Nat.pow_add,
    Nat.pow_add _ (_ + 1)]
  exact ⟨Nat.mul_le_mul_right _ (Nat.log2_self_le positive.ne'),
    Nat.mul_lt_mul_of_pos_right Nat.lt_log2_self (Nat.two_pow_pos k)⟩

private theorem roundWithAccuracy_eq (sign : Sign) (m : Nat) (e : Int) :
    roundWithAccuracy Format.binary64 sign m e .exact =
      ofRounded sign (shiftToTargetExponent Format.binary64 m e .exact).1.roundedMantissa
        (shiftToTargetExponent Format.binary64 m e .exact).2 := rfl

theorem round_roundsTo (sign : Sign) {m : Nat} (positive : 0 < m) (e : Int) :
    RoundsTo sign (roundedDigits m e (lastPlace m e)) (lastPlace m e)
      (UnpackedFloat.round Format.binary64 sign m e) := by
  have digits_le : roundedDigits m e (lastPlace m e) ≤ 2 ^ 53 :=
    roundedDigits_le (by exact_mod_cast (lt_lastPlace m e).le)
  -- moving the digits up to the last place does not move that
  have place : lastPlace (m <<< (e - lastPlace m e).toNat) (e - (e - lastPlace m e).toNat) =
      lastPlace m e := by
    rw [lastPlace, log2_shiftLeft positive]
    unfold lastPlace
    omega
  have amount : (lastPlace m e - (e - (e - lastPlace m e).toNat)).toNat =
      (lastPlace m e - e).toNat := by omega
  have reached : e - (e - lastPlace m e).toNat + (lastPlace m e - e).toNat =
      lastPlace m e := by omega
  have result := ofRounded_roundsTo sign digits_le (le_max_right _ _ : -1074 ≤ lastPlace m e)
  unfold UnpackedFloat.round
  simp only [targetExponent_eq, decreaseExponent]
  rwa [roundWithAccuracy_eq, shiftToTargetExponent_exact, place, amount, reached, ← roundedDigits]

/-! ### Rounding keeps order -/

section Order

variable {n m : Nat} {e e' : Int}

/-- At a place other than the least one the leading digit is where it should be. -/
theorem roundedDigits_leading (positive : 0 < m) (above : -1074 < lastPlace m e) :
    2 ^ 52 ≤ roundedDigits m e (lastPlace m e) :=
  le_roundedDigits (by exact_mod_cast lastPlace_le positive above)

theorem isCanonical_roundedDigits (positive : 0 < m)
    (short : roundedDigits m e (lastPlace m e) < 2 ^ 53) :
    IsCanonical (roundedDigits m e (lastPlace m e)) (lastPlace m e) where
  short := short
  least := le_max_right _ _
  leading := by
    rcases (le_max_right _ _ : -1074 ≤ lastPlace m e).lt_or_eq with above | same
    · exact .inl (roundedDigits_leading positive above)
    · exact .inr same.symm

theorem isCanonical_carry (m : Nat) (e : Int) : IsCanonical (2 ^ 52) (lastPlace m e + 1) where
  short := by norm_num
  least := by unfold lastPlace; omega
  leading := .inl le_rfl

/-- A double is below every number with a greater last place. -/
theorem IsCanonical.lt_of_lt (canonical : IsCanonical n e') (above : e' < e) :
    (n : ℚ) * 2 ^ e' < 2 ^ 52 * 2 ^ e := by
  have short : (n : ℚ) < 2 ^ 53 := by exact_mod_cast canonical.short
  calc (n : ℚ) * 2 ^ e' < 2 ^ 53 * 2 ^ e' := mul_lt_mul_of_pos_right short (two_zpow_pos e')
    _ = 2 ^ 52 * 2 ^ (e' + 1) := by rw [zpow_add_one₀ two_ne_zero]; ring
    _ ≤ 2 ^ 52 * 2 ^ e :=
      mul_le_mul_of_nonneg_left (zpow_le_zpow_right₀ one_le_two above) (by norm_num)

/-- A double is at least every number with a smaller last place. -/
theorem IsCanonical.le_of_lt (canonical : IsCanonical n e') (least : -1074 ≤ e) (below : e < e') :
    (2 : ℚ) ^ 53 * 2 ^ e ≤ n * 2 ^ e' := by
  have leading : (2 : ℚ) ^ 52 ≤ n := by
    exact_mod_cast canonical.leading.resolve_right (by omega)
  calc (2 : ℚ) ^ 53 * 2 ^ e = 2 ^ 52 * 2 ^ (e + 1) := by rw [zpow_add_one₀ two_ne_zero]; ring
    _ ≤ 2 ^ 52 * 2 ^ e' :=
      mul_le_mul_of_nonneg_left (zpow_le_zpow_right₀ one_le_two below) (by norm_num)
    _ ≤ n * 2 ^ e' := mul_le_mul_of_nonneg_right leading (two_zpow_pos e').le

theorem round_cases (sign : Sign) (positive : 0 < m) (e : Int) :
    UnpackedFloat.round Format.binary64 sign m e = .zero sign ∨
      ∃ n e' some, UnpackedFloat.round Format.binary64 sign m e = .finite sign n e' some ∧
        IsCanonical n e' := by
  generalize rounded : UnpackedFloat.round Format.binary64 sign m e = u
  have rounds := rounded ▸ round_roundsTo sign positive e
  cases rounds with
  | zero none => exact .inl rfl
  | finite some short => exact .inr ⟨_, _, some, rfl, isCanonical_roundedDigits positive short⟩
  | carry some full => exact .inr ⟨_, _, some, rfl, isCanonical_carry m e⟩

/-- What is at least a double is rounded to at least that. -/
theorem round_at_least (sign : Sign) (canonical : IsCanonical n e') (some : 0 < n)
    (at_least : (n : ℚ) * 2 ^ e' ≤ m * 2 ^ e) :
    ∃ n' e'' some', UnpackedFloat.round Format.binary64 sign m e = .finite sign n' e'' some' ∧
      IsCanonical n' e'' ∧ AtMost n e' n' e'' := by
  have positive : 0 < m := mantissa_pos ((scaled_pos some e').trans_le at_least)
  have place_le : e' ≤ lastPlace m e := by
    by_contra! above
    exact absurd (lt_lastPlace m e)
      (not_lt.2 ((canonical.le_of_lt (le_max_right _ _) above).trans at_least))
  have digits : e' < lastPlace m e ∧ 2 ^ 52 ≤ roundedDigits m e (lastPlace m e) ∨
      e' = lastPlace m e ∧ n ≤ roundedDigits m e (lastPlace m e) := by
    rcases place_le.lt_or_eq with below | rfl
    · exact .inl ⟨below, roundedDigits_leading positive (canonical.least.trans_lt below)⟩
    · exact .inr ⟨rfl, le_roundedDigits at_least⟩
  generalize rounded : UnpackedFloat.round Format.binary64 sign m e = u
  have rounds := rounded ▸ round_roundsTo sign positive e
  cases rounds with
  | zero none => omega
  | finite some' short =>
    exact ⟨_, _, some', rfl, isCanonical_roundedDigits positive short, digits.imp And.left id⟩
  | carry some' full => exact ⟨_, _, some', rfl, isCanonical_carry m e, .inl (by omega)⟩

/-- What is at most a double is rounded to at most that. -/
theorem round_at_most (sign : Sign) (canonical : IsCanonical n e') (positive : 0 < m)
    (at_most : (m : ℚ) * 2 ^ e ≤ n * 2 ^ e') :
    UnpackedFloat.round Format.binary64 sign m e = .zero sign ∨
      ∃ n' e'' some', UnpackedFloat.round Format.binary64 sign m e = .finite sign n' e'' some' ∧
        IsCanonical n' e'' ∧ AtMost n' e'' n e' := by
  have le_place : lastPlace m e ≤ e' := by
    by_contra! below
    have leading := lastPlace_le positive (canonical.least.trans_lt below)
    exact absurd (canonical.lt_of_lt below) (not_lt.2 (leading.trans at_most))
  have digits : lastPlace m e < e' ∧ 2 ^ 52 ≤ n ∨ lastPlace m e = e' ∧
      roundedDigits m e (lastPlace m e) ≤ n := by
    rcases le_place.lt_or_eq with above | rfl
    · exact .inl ⟨above, canonical.leading.resolve_right
        ((le_max_right _ _ : -1074 ≤ lastPlace m e).trans_lt above).ne'⟩
    · exact .inr ⟨rfl, roundedDigits_le at_most⟩
  have short' := canonical.short
  generalize rounded : UnpackedFloat.round Format.binary64 sign m e = u
  have rounds := rounded ▸ round_roundsTo sign positive e
  -- a carry goes at most to the first double with the exponent above
  cases rounds with
  | zero none => exact .inl rfl
  | finite some' short =>
    exact .inr ⟨_, _, some', rfl, isCanonical_roundedDigits positive short,
      digits.imp And.left id⟩
  | carry some' full =>
    refine .inr ⟨_, _, some', rfl, isCanonical_carry m e, ?_⟩
    unfold AtMost
    omega

end Order

/-! ### Packing what has been rounded -/

/-- What has been packed, as it is found again. -/
def repacked (u : UnpackedFloat) : UnpackedFloat :=
  UnpackedFloat.unpack Format.binary64 (UnpackedFloat.pack Format.binary64 u)

theorem isCanonical_of_unpack {b : BitVec Format.binary64.numBits} {sign : Sign} {m : Nat} {e : Int}
    {some : 0 < m} (unpacked : UnpackedFloat.unpack Format.binary64 b = .finite sign m e some) :
    IsCanonical m e ∧ e ≤ 971 := by
  have exponent_lt : (unpackExponent b).toNat < 2 ^ 11 := (unpackExponent b).isLt
  have mantissa_lt : (unpackMantissa b).toNat < 2 ^ 52 := (unpackMantissa b).isLt
  have bias : (Format.binary64.exponentBias : Int) + (52 : Nat) = 1075 := by decide
  unfold UnpackedFloat.unpack at unpacked
  dsimp only at unpacked
  split at unpacked
  · split at unpacked <;> cases unpacked
  next ends =>
    have ends : (unpackExponent b).toNat ≠ 2047 := fun same => ends (BitVec.toNat_inj.1 same)
    split at unpacked
    next zero =>
      split at unpacked
      · cases unpacked
      · -- a subnormal number has the least exponent
        cases unpacked
        have exponent : (unpackExponent b).toNat = 0 := by rw [zero]; rfl
        rw [exponent, bias]
        exact ⟨⟨by omega, by omega, .inr (by omega)⟩, by omega⟩
    next normal =>
      cases unpacked
      have exponent : (unpackExponent b).toNat ≠ 0 := fun same => normal (BitVec.toNat_inj.1 same)
      rw [bias, toNat_hidden]
      exact ⟨⟨by omega, by omega, .inl (by omega)⟩, by omega⟩

private theorem ofBitVec_unpackSign_packComponents (sign : Sign) (exponent : BitVec 11)
    (mantissa : BitVec 52) :
    Sign.ofBitVec (unpackSign (packComponents Format.binary64 sign exponent mantissa)) = sign := by
  have same : unpackSign (packComponents Format.binary64 sign exponent mantissa) =
      sign.toBitVec := by
    simp only [packComponents, unpackSign, BitVec.extractLsb]
    ext i below
    grind
  rw [same]
  cases sign <;> rfl

private theorem unpack_packComponents (sign : Sign) (exponent : BitVec 11) (mantissa : BitVec 52)
    (finite : exponent ≠ -1#11) :
    UnpackedFloat.unpack Format.binary64 (packComponents Format.binary64 sign exponent mantissa) =
      if exponent = 0#11 then
        if none : mantissa = 0#52 then .zero sign
        else .finite sign mantissa.toNat (-1074)
          (by simpa [BitVec.toNat_pos, BitVec.pos_iff_ne_zero] using none)
      else .finite sign (1#1 ++ mantissa).toNat (exponent.toNat - 1075)
        (by rw [toNat_hidden]; positivity) := by
  have bias : (Format.binary64.exponentBias : Int) + (52 : Nat) = 1075 := by decide
  unfold UnpackedFloat.unpack
  simp only [unpackExponent_packComponents, unpackMantissa_packComponents,
    ofBitVec_unpackSign_packComponents, bias]
  rw [if_neg finite]
  split
  next zero =>
    subst zero
    rfl
  · rfl

/-- What is too large for a double is packed as an infinity. -/
theorem repacked_finite (sign : Sign) {m : Nat} {e : Int} (canonical : IsCanonical m e)
    (some : 0 < m) :
    repacked (.finite sign m e some) = if e ≤ 971 then
      .finite sign m e some else .infinity sign := by
  obtain ⟨short, least, leading⟩ := canonical
  have bias : e + Format.binary64.exponentBias + (52 : Nat) = e + 1075 := by
    rw [Int.add_assoc]
    rfl
  simp only [repacked, UnpackedFloat.pack, bias]
  split
  next large =>
    -- the exponent has no place in its field, which then says infinity
    rw [if_neg (show ¬ e ≤ 971 by omega)]
    cases sign <;> rfl
  next small =>
    rw [if_pos (show e ≤ 971 by omega)]
    have biased : (BitVec.ofNat 11 (e + 1075).toNat).toNat = (e + 1075).toNat := by
      rw [BitVec.toNat_ofNat]
      omega
    split
    next full =>
      -- all 53 digits: the leading one is not written
      have normal : 2 ^ 52 ≤ m :=
        (Nat.log2_eq_iff some.ne').1 (Nat.succ.inj full : m.log2 = 52) |>.1
      rw [unpack_packComponents, if_neg]
      · have hidden : (1#1 ++ BitVec.ofNat 52 m).toNat = m := by
          rw [toNat_hidden, BitVec.toNat_ofNat]
          omega
        simp only [hidden, biased]
        congr 1
        omega
      · rw [← BitVec.toNat_inj, biased]
        exact show (e + 1075).toNat ≠ 0 by omega
      · rw [Ne, ← BitVec.toNat_inj, biased]
        exact show (e + 1075).toNat ≠ 2047 by omega
    next lacking =>
      -- fewer digits occur at the least exponent only, where none is left out
      have subnormal : m < 2 ^ 52 := by
        by_contra! normal
        exact lacking (by rw [(Nat.log2_eq_iff some.ne').2 ⟨normal, short⟩]; rfl)
      have same : (BitVec.ofNat 52 m).toNat = m := by
        rw [BitVec.toNat_ofNat]
        omega
      rw [unpack_packComponents _ _ _ (by decide), if_pos rfl, dif_neg]
      · simp only [same]
        congr 1
        omega
      · rw [← BitVec.toNat_inj, same]
        exact some.ne'

/-- What is less than half a digit above the largest double is not rounded to an infinity. -/
theorem isFinite_repacked_round (sign : Sign) {m : Nat} {e : Int} (positive : 0 < m)
    (bounded : (m : ℚ) * 2 ^ e < (2 ^ 53 - 1 / 2) * 2 ^ (971 : Int)) :
    (repacked (UnpackedFloat.round Format.binary64 sign m e)).isFinite = true := by
  have place_le : lastPlace m e ≤ 971 := by
    by_contra! above
    have leading := lastPlace_le positive (by omega : -1074 < lastPlace m e)
    have step : (2 : ℚ) ^ (971 + 1 : Int) ≤ 2 ^ lastPlace m e :=
      zpow_le_zpow_right₀ one_le_two above
    rw [zpow_add_one₀ two_ne_zero] at step
    have unit_pos := two_zpow_pos 971
    generalize (2 : ℚ) ^ (971 : Int) = unit at *
    linarith
  have digits_le (top : lastPlace m e = 971) :
      roundedDigits m e (lastPlace m e) ≤ 2 ^ 53 - 1 := by
    refine roundedDigits_le_of_lt ?_
    rw [top]
    exact bounded.trans_eq (congrArg (· * (2 : ℚ) ^ (971 : Int)) (by norm_num))
  -- only rounding up at the largest exponent could lead to an infinity
  generalize rounded : UnpackedFloat.round Format.binary64 sign m e = u
  have rounds := rounded ▸ round_roundsTo sign positive e
  cases rounds with
  | zero none => cases sign <;> rfl
  | finite some short =>
    rw [repacked_finite sign (isCanonical_roundedDigits positive short) some, if_pos place_le]
    rfl
  | carry some full =>
    rw [repacked_finite sign (isCanonical_carry m e) some, if_pos (by omega)]
    rfl

/-! ### Order of sums -/

private theorem isLE_compare_iff {m m' : Nat} {e e' : Int} :
    ((compare e e').then (compare m m')).isLE = true ↔ AtMost m e m' e' := by
  rw [Ordering.isLE_then_iff_or, compare_lt_iff_lt, compare_eq_iff_eq, Nat.isLE_compare]
  rfl

theorem finite_le_finite_iff {m m' : Nat} {e e' : Int} {some : 0 < m} {some' : 0 < m'} :
    (UnpackedFloat.finite .positive m e some).le (.finite .positive m' e' some') = true ↔
      AtMost m e m' e' :=
  isLE_compare_iff

private theorem negative_le_negative_iff {m m' : Nat} {e e' : Int} {some : 0 < m} {some' : 0 < m'} :
    (UnpackedFloat.finite .negative m e some).le (.finite .negative m' e' some') = true ↔
      AtMost m' e' m e := by
  rw [← isLE_compare_iff, Std.OrientedOrd.eq_swap (a := e'), Std.OrientedOrd.eq_swap (a := m'),
    ← Ordering.swap_then]
  rfl

theorem normalize_positive {n : Int} (positive : 0 < n) (e : Int) (zero : Sign) :
    UnpackedFloat.normalize Format.binary64 n e zero =
      UnpackedFloat.round Format.binary64 .positive n.toNat e := by
  unfold UnpackedFloat.normalize
  rw [compare_gt_iff_gt.2 positive]

theorem normalize_negative {n : Int} (negative : n < 0) (e : Int) (zero : Sign) :
    UnpackedFloat.normalize Format.binary64 n e zero =
      UnpackedFloat.round Format.binary64 .negative (-n).toNat e := by
  unfold UnpackedFloat.normalize
  rw [compare_lt_iff_lt.2 negative]

theorem normalize_zero (e : Int) (zero : Sign) :
    UnpackedFloat.normalize Format.binary64 0 e zero = .zero zero := by
  unfold UnpackedFloat.normalize
  rw [compare_eq_iff_eq.2 rfl]

/-- The sum of a double and something that is not negative, in units of the smaller exponent. -/
def sumOf (sign : Sign) (m n : Nat) (e : Int) : UnpackedFloat :=
  UnpackedFloat.normalize Format.binary64 (sign.apply m + n) e .positive

/-- Adding to a double does not give less. -/
theorem finite_le_sumOf (sign : Sign) {m : Nat} {e : Int} (canonical : IsCanonical m e)
    (small : e ≤ 971) (some : 0 < m) {shifted : Nat} {unit : Int}
    (same : (m : ℚ) * 2 ^ e = shifted * 2 ^ unit) (added : Nat) :
    (UnpackedFloat.finite sign m e some).le (repacked (sumOf sign shifted added unit)) = true := by
  have some_shifted : 0 < shifted := mantissa_pos (same ▸ scaled_pos some e)
  unfold sumOf
  cases sign with
  | positive =>
    have at_least : (m : ℚ) * 2 ^ e ≤ (shifted + added : Nat) * 2 ^ unit := by
      rw [same]
      exact mul_le_mul_of_nonneg_right (by norm_cast; omega) (two_zpow_pos unit).le
    obtain ⟨m', e', some', rounded, canonical', at_most⟩ :=
      round_at_least .positive canonical some at_least
    have sum : Sign.positive.apply shifted + added = (shifted + added : Nat) := rfl
    rw [sum, normalize_positive (by omega), Int.toNat_natCast, rounded,
      repacked_finite _ canonical']
    split
    · exact finite_le_finite_iff.2 at_most
    · rfl
  | negative =>
    have sum : Sign.negative.apply shifted + added = added - shifted := neg_add_eq_sub _ _
    rw [sum]
    rcases lt_trichotomy (added : Int) shifted with less | same | greater
    · -- the sum is negative still, but not more so
      have at_most : ((shifted - added : Nat) : ℚ) * 2 ^ unit ≤ m * 2 ^ e := by
        rw [same]
        exact mul_le_mul_of_nonneg_right (by norm_cast; omega) (two_zpow_pos unit).le
      rw [normalize_negative (by omega), show (-((added : Int) - shifted)).toNat =
        shifted - added by omega]
      rcases round_at_most .negative canonical (by omega) at_most with
        rounded | ⟨m', e', some', rounded, canonical', at_most⟩
      · rw [rounded]
        rfl
      · rw [rounded, repacked_finite _ canonical', if_pos (at_most.elim (by omega) (by omega))]
        exact negative_le_negative_iff.2 at_most
    · rw [same, Int.sub_self, normalize_zero]
      rfl
    · rw [normalize_positive (by omega)]
      rcases round_cases .positive (show 0 < ((added : Int) - shifted).toNat by omega) unit with
        rounded | ⟨m', e', some', rounded, canonical'⟩
      · rw [rounded]
        rfl
      · rw [rounded, repacked_finite _ canonical']
        split <;> rfl

/-- A double is less than half a digit below the bound for what is not rounded to an infinity. -/
theorem IsCanonical.lt_bound {m : Nat} {e : Int} (canonical : IsCanonical m e) (small : e ≤ 971) :
    (m : ℚ) * 2 ^ e + 2 ^ (970 : Int) ≤ (2 ^ 53 - 1 / 2) * 2 ^ (971 : Int) := by
  have digits : (m : ℚ) ≤ 2 ^ 53 - 1 := by
    have short : (m : ℚ) + 1 ≤ 2 ^ 53 := by exact_mod_cast canonical.short
    linarith
  have half : (2 : ℚ) ^ (970 + 1 : Int) = 2 ^ (970 : Int) * 2 := zpow_add_one₀ two_ne_zero _
  have scaled : (m : ℚ) * 2 ^ e ≤ (2 ^ 53 - 1) * 2 ^ (970 + 1 : Int) :=
    mul_le_mul digits (zpow_le_zpow_right₀ one_le_two small) (two_zpow_pos e).le (by norm_num)
  change _ ≤ (2 ^ 53 - 1 / 2) * (2 : ℚ) ^ (970 + 1 : Int)
  rw [half] at scaled ⊢
  generalize (2 : ℚ) ^ (970 : Int) = unit at *
  linarith

/-- Adding a little to a double does not give an infinity. -/
theorem isFinite_sumOf (sign : Sign) {m : Nat} {e : Int} (canonical : IsCanonical m e)
    (small : e ≤ 971) {shifted : Nat} {unit : Int} (same : (m : ℚ) * 2 ^ e = shifted * 2 ^ unit)
    {added : Nat} (little : (added : ℚ) * 2 ^ unit < 2 ^ (970 : Int)) :
    (repacked (sumOf sign shifted added unit)).isFinite = true := by
  have bound := canonical.lt_bound small
  have nonneg : 0 ≤ (added : ℚ) * 2 ^ unit :=
    mul_nonneg (Nat.cast_nonneg _) (two_zpow_pos unit).le
  rw [same] at bound
  have sum_lt {n : Nat} (at_most : n ≤ shifted + added) :
      (n : ℚ) * 2 ^ unit < (2 ^ 53 - 1 / 2) * 2 ^ (971 : Int) := by
    have at_most : (n : ℚ) * 2 ^ unit ≤ (shifted + added : Nat) * 2 ^ unit :=
      mul_le_mul_of_nonneg_right (by exact_mod_cast at_most) (two_zpow_pos unit).le
    push_cast at at_most
    linarith
  unfold sumOf
  have sum : (sign.apply shifted + added : Int).natAbs ≤ shifted + added := by
    cases sign <;> simp only [Sign.apply] <;> omega
  generalize (sign.apply shifted + added : Int) = n at sum
  rcases lt_trichotomy n 0 with negative | rfl | positive
  · rw [normalize_negative negative]
    exact isFinite_repacked_round _ (by omega) (sum_lt (by omega))
  · rw [normalize_zero]
    rfl
  · rw [normalize_positive positive]
    exact isFinite_repacked_round _ (by omega) (sum_lt (by omega))

private theorem toModel_unpack_add (x y : Float) : (x + y).toModel.unpack =
    repacked (UnpackedFloat.add Format.binary64 x.toModel.unpack y.toModel.unpack) := by
  rfl

private theorem repacked_toModel_unpack (x : Float) :
    repacked x.toModel.unpack = x.toModel.unpack :=
  unpack_pack_unpack _

private theorem add_finite (sign : Sign) {m n : Nat} (e e' : Int) (some : 0 < m) (some' : 0 < n) :
    UnpackedFloat.add Format.binary64 (.finite sign m e some) (.finite .positive n e' some') =
      sumOf sign (m * 2 ^ (e - e').toNat) (n * 2 ^ (e' - e).toNat) (min e e') := by
  unfold UnpackedFloat.add decreaseExponent sumOf
  simp only [Nat.shiftLeft_eq]
  rw [show (e - min e e').toNat = (e - e').toNat by omega, show (e' - min e e').toNat =
    (e' - e).toNat by omega]
  rfl

/-- What is not negative. -/
theorem cases_of_nonneg {v : UnpackedFloat} (nonneg : (UnpackedFloat.zero .positive).le v = true) :
    v = .infinity .positive ∨ (∃ sign, v = .zero sign) ∨
    ∃ n e some, v = .finite .positive n e some := by
  cases v with
  | notANumber => cases nonneg
  | infinity sign =>
    cases sign with
    | negative => cases nonneg
    | positive => exact .inl rfl
  | zero sign => exact .inr (.inl ⟨sign, rfl⟩)
  | finite sign n e some =>
    cases sign with
    | negative => cases nonneg
    | positive => exact .inr (.inr ⟨n, e, some, rfl⟩)

private theorem finite_le_self (sign : Sign) (m : Nat) (e : Int) (some : 0 < m) :
    (UnpackedFloat.finite sign m e some).le (.finite sign m e some) = true := by
  cases sign with
  | positive => exact finite_le_finite_iff.2 (.inr ⟨rfl, le_rfl⟩)
  | negative => exact negative_le_negative_iff.2 (.inr ⟨rfl, le_rfl⟩)

/-- Adding something that is not negative does not give less. -/
theorem le_add_of_nonneg {x y : Float} (finite : x.isFinite = true) (nonneg : 0.0 ≤ y) :
    x ≤ x + y := by
  have finite : x.toModel.unpack.isFinite = true := finite
  have nonneg := cases_of_nonneg (of_decide_eq_true nonneg : _ = true)
  suffices le : x.toModel.unpack.le (x + y).toModel.unpack = true from decide_eq_true le
  -- a zero leaves the other summand, packed once more
  have repacked_x := repacked_toModel_unpack x
  have repacked_y := repacked_toModel_unpack y
  rw [toModel_unpack_add]
  cases unpacked : x.toModel.unpack with
  | notANumber =>
    rw [unpacked] at finite
    cases finite
  | infinity sign =>
    rw [unpacked] at finite
    cases finite
  | zero sign =>
    rcases nonneg with infinite | ⟨sign', zero⟩ | ⟨n, e', some', positive⟩
    · rw [infinite]
      cases sign <;> rfl
    · rw [zero]
      cases sign <;> cases sign' <;> rfl
    · rw [positive] at repacked_y ⊢
      change (UnpackedFloat.zero sign).le (repacked (.finite .positive n e' some')) = true
      rw [repacked_y]
      rfl
  | finite sign m e some =>
    rw [unpacked] at repacked_x
    obtain ⟨canonical, small⟩ := isCanonical_of_unpack unpacked
    rcases nonneg with infinite | ⟨sign', zero⟩ | ⟨n, e', some', positive⟩
    · rw [infinite] at repacked_y ⊢
      change (UnpackedFloat.finite sign m e some).le (repacked (.infinity .positive)) = true
      rw [repacked_y]
      cases sign <;> rfl
    · rw [zero]
      change (UnpackedFloat.finite sign m e some).le (repacked (.finite sign m e some)) = true
      rw [repacked_x]
      exact finite_le_self sign m e some
    · rw [positive, add_finite]
      exact finite_le_sumOf sign canonical small some (cast_shifted m e e') _

theorem isFinite_add_one {x : Float} (finite : x.isFinite = true) : (x + 1.0).isFinite = true := by
  have finite : x.toModel.unpack.isFinite = true := finite
  have one : (1.0 : Float).toModel.unpack =
      .finite .positive (2 ^ 52) (-52) (Nat.two_pow_pos 52) := by rfl
  change (x + 1.0).toModel.unpack.isFinite = true
  rw [toModel_unpack_add, one]
  cases unpacked : x.toModel.unpack with
  | notANumber =>
    rw [unpacked] at finite
    cases finite
  | infinity sign =>
    rw [unpacked] at finite
    cases finite
  | zero sign =>
    change (repacked (.finite .positive (2 ^ 52) (-52) _)).isFinite = true
    rw [← one, repacked_toModel_unpack, one]
    rfl
  | finite sign m e some =>
    obtain ⟨canonical, small⟩ := isCanonical_of_unpack unpacked
    rw [add_finite]
    refine isFinite_sumOf sign canonical small (cast_shifted m e (-52)) ?_
    rw [min_comm, ← cast_shifted]
    -- one is far below half a digit of the largest double
    calc ((2 ^ 52 : Nat) : ℚ) * 2 ^ (-52 : Int) = 2 ^ (0 : Int) := by norm_num
      _ < 2 ^ (970 : Int) := zpow_lt_zpow_right₀ one_lt_two (by norm_num)

private theorem sub_finite_self (sign : Sign) {m : Nat} (e : Int) (some some' : 0 < m) :
    UnpackedFloat.sub Format.binary64 (.finite sign m e some) (.finite sign m e some') =
      .zero .positive := by
  unfold UnpackedFloat.sub decreaseExponent
  simp only [Int.sub_self, normalize_zero]

/-- The difference of numbers that are equal is zero. -/
theorem exists_sub_eq_zero {u v : UnpackedFloat} (finite : u.isFinite = true) (le : u.le v = true)
    (ge : v.le u = true) : ∃ sign, UnpackedFloat.sub Format.binary64 v u = .zero sign := by
  cases u with
  | notANumber => cases finite
  | infinity => cases finite
  | zero sign =>
    cases v with
    | notANumber => cases le
    | infinity sign' => cases sign' <;> first | (cases le; done) | cases ge
    | zero sign' => cases sign <;> cases sign' <;> exact ⟨_, rfl⟩
    | finite sign' m' e' some' => cases sign' <;> first | (cases le; done) | cases ge
  | finite sign m e some =>
    cases v with
    | notANumber => cases sign <;> cases le
    | infinity sign' => cases sign <;> cases sign' <;> first | (cases le; done) | cases ge
    | zero sign' => cases sign <;> first | (cases le; done) | cases ge
    | finite sign' m' e' some' =>
      -- doubles of the same sign that are equal have the same parts
      obtain ⟨rfl, rfl, rfl⟩ : sign = sign' ∧ m = m' ∧ e = e' := by
        cases sign <;> cases sign'
        · exact ⟨rfl, (negative_le_negative_iff.1 ge).antisymm (negative_le_negative_iff.1 le)⟩
        · cases ge
        · cases le
        · exact ⟨rfl, (finite_le_finite_iff.1 le).antisymm (finite_le_finite_iff.1 ge)⟩
      exact ⟨_, sub_finite_self sign e _ _⟩

theorem sub_eq_zero_of_le_of_le {x y : Float} (finite : x.isFinite = true) (le : x ≤ y)
    (ge : y ≤ x) :
    (y - x == 0.0) = true := by
  obtain ⟨sign, none⟩ := exists_sub_eq_zero (u := x.toModel.unpack) (v :=
    y.toModel.unpack) finite (of_decide_eq_true le) (of_decide_eq_true ge)
  change (repacked (UnpackedFloat.sub Format.binary64 y.toModel.unpack x.toModel.unpack)).beq
    (UnpackedFloat.zero .positive) = true
  rw [none]
  cases sign <;> rfl

end CurveBoard
