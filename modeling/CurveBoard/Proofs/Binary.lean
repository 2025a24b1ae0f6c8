import CurveBoard.Value.Number
import Mathlib

/-!
# Doubles put together and taken apart

A finite double is the bits it was put together from, so that taking it apart gives back its
mantissa and its exponent. Opposite numbers differ in the bit of the sign. The integer part of a
double has no more binary digits that count than the double itself. So it is a double, and
converting it to one and back changes nothing.
-/
namespace CurveBoard

open Float.Model UnpackedFloat

private theorem toNat_unpackExponent (b : BitVec Format.binary64.numBits) :
    (unpackExponent b).toNat = b.toNat / 2 ^ 52 % 2 ^ 11 := by
  simp [unpackExponent, BitVec.extractLsb_toNat, Nat.shiftRight_eq_div_pow]

private theorem toBitVec_ofBitVec (s : BitVec 1) : (Sign.ofBitVec s).toBitVec = s := by
  revert s
  decide

/-- The fields of a packed number are all of it. -/
theorem packComponents_unpack (b : BitVec Format.binary64.numBits) :
    packComponents Format.binary64 (Sign.ofBitVec (unpackSign b)) (unpackExponent b)
      (unpackMantissa b) = b := by
  simp only [packComponents, toBitVec_ofBitVec, unpackSign, unpackExponent, unpackMantissa,
    BitVec.extractLsb]
  ext i below
  grind

/-- Whether the exponent is the one that infinities and NaN have. -/
theorem unpackExponent_eq_iff (b : BitVec Format.binary64.numBits) :
    unpackExponent b = -1#11 ↔ b.toNat / 2 ^ 52 % 2 ^ 11 = 2047 := by
  rw [← toNat_unpackExponent, ← BitVec.toNat_inj]
  rfl

/-! ### The hidden digit -/

theorem toNat_hidden (m : BitVec 52) : (1#1 ++ m).toNat = 2 ^ 52 + m.toNat := by
  rw [BitVec.toNat_append, Nat.shiftLeft_eq, Nat.mul_comm]
  exact (Nat.two_pow_add_eq_or_of_lt m.isLt 1).symm

private theorem log2_hidden (m : BitVec 52) : (1#1 ++ m).toNat.log2 = 52 := by
  have small : m.toNat < 2 ^ 52 := m.isLt
  rw [toNat_hidden, Nat.log2_eq_iff (by omega)]
  omega

private theorem ofNat_hidden (m : BitVec 52) : BitVec.ofNat 52 (1#1 ++ m).toNat = m := by
  have small : m.toNat < 2 ^ 52 := m.isLt
  rw [toNat_hidden, ← BitVec.toNat_inj, BitVec.toNat_ofNat]
  omega

/-- Packing a finite number that has been unpacked. -/
theorem pack_unpack {b : BitVec Format.binary64.numBits}
    (finite : b.toNat / 2 ^ 52 % 2 ^ 11 ≠ 2047) :
    UnpackedFloat.pack Format.binary64 (UnpackedFloat.unpack Format.binary64 b) = b := by
  rw [Ne, ← unpackExponent_eq_iff] at finite
  have whole := packComponents_unpack b
  have exponent_lt : (unpackExponent b).toNat < 2 ^ 11 := (unpackExponent b).isLt
  have width : Format.binary64.mantissaBits = 53 := rfl
  unfold UnpackedFloat.unpack
  dsimp only
  rw [if_neg finite]
  split
  next zero =>
    split
    next none =>
      -- zero
      rw [zero, none] at whole
      exact whole
    next some =>
      -- a subnormal number has no hidden digit
      have small : (unpackMantissa b).toNat.log2 < 52 :=
        (Nat.log2_lt (by simpa [← BitVec.toNat_inj] using some)).2 (unpackMantissa b).isLt
      have exponent : (unpackExponent b).toNat = 0 := by rw [zero]; rfl
      simp only [UnpackedFloat.pack, width]
      rw [if_neg (by omega), if_neg (by omega), BitVec.ofNat_toNat, BitVec.setWidth_eq, ← zero]
      exact whole
  next normal =>
    have below : (unpackExponent b).toNat ≠ 2047 := fun same => finite (BitVec.toNat_inj.1 same)
    have biased (bias : Nat) :
        ((unpackExponent b).toNat - ((bias : Int) + (52 : Nat)) + bias + (52 : Nat)).toNat =
          (unpackExponent b).toNat := by
      omega
    simp only [UnpackedFloat.pack, log2_hidden, width, biased]
    rw [if_neg (by omega), if_pos trivial, BitVec.ofNat_toNat, BitVec.setWidth_eq, ofNat_hidden]
    exact whole

private theorem toBits_ofBits {bits : UInt64} (finite : bits.toNat / 2 ^ 52 % 2 ^ 11 ≠ 2047) :
    (Float.ofBits bits).toBits = bits :=
  congrArg UInt64.ofBitVec (pack_unpack finite)

theorem twoPower_eq (n : Nat) : twoPower n = 2 ^ n := rfl

/-! ### Opposite numbers -/

private theorem toNat_unpackMantissa (b : BitVec Format.binary64.numBits) :
    (unpackMantissa b).toNat = b.toNat % 2 ^ 52 := by
  simp [unpackMantissa, BitVec.extractLsb_toNat]

private theorem toNat_unpackSign (b : BitVec Format.binary64.numBits) :
    (unpackSign b).toNat = b.toNat / 2 ^ 63 % 2 := by
  simp [unpackSign, BitVec.extractLsb_toNat, Nat.shiftRight_eq_div_pow]

private theorem sign_flipped {s t : BitVec 1} (opposite : t.toNat = 1 - s.toNat) :
    Sign.ofBitVec t = -Sign.ofBitVec s := by
  have two : ∀ s : BitVec 1, s = 0#1 ∨ s = 1#1 := by decide
  rcases two s with rfl | rfl
  · obtain rfl : t = 1#1 := BitVec.toNat_inj.1 opposite
    rfl
  · obtain rfl : t = 0#1 := BitVec.toNat_inj.1 opposite
    rfl

/-- A number whose sign has been flipped. -/
theorem unpack_flipped {b flipped : BitVec Format.binary64.numBits}
    (opposite : flipped.toNat = (2 ^ 63 + b.toNat) % 2 ^ 64) :
    UnpackedFloat.unpack Format.binary64 flipped =
      (UnpackedFloat.unpack Format.binary64 b).neg := by
  have exponent : unpackExponent flipped = unpackExponent b := by
    rw [← BitVec.toNat_inj, toNat_unpackExponent, toNat_unpackExponent, opposite]
    omega
  have mantissa : unpackMantissa flipped = unpackMantissa b := by
    rw [← BitVec.toNat_inj, toNat_unpackMantissa, toNat_unpackMantissa, opposite]
    omega
  have sign : Sign.ofBitVec (unpackSign flipped) = -Sign.ofBitVec (unpackSign b) := by
    refine sign_flipped ?_
    have small : b.toNat < 2 ^ 64 := b.isLt
    rw [toNat_unpackSign, toNat_unpackSign, opposite]
    omega
  unfold UnpackedFloat.unpack
  simp only [exponent, sign, mantissa]
  split_ifs <;> rfl

/-- What has been unpacked is found again after packing, also an infinity or NaN. -/
theorem unpack_pack_unpack (b : BitVec Format.binary64.numBits) :
    UnpackedFloat.unpack Format.binary64
      (UnpackedFloat.pack Format.binary64 (UnpackedFloat.unpack Format.binary64 b)) =
      UnpackedFloat.unpack Format.binary64 b := by
  by_cases endless : b.toNat / 2 ^ 52 % 2 ^ 11 = 2047
  · generalize unpacked : UnpackedFloat.unpack Format.binary64 b = u
    unfold UnpackedFloat.unpack at unpacked
    dsimp only at unpacked
    rw [if_pos ((unpackExponent_eq_iff b).2 endless)] at unpacked
    split at unpacked
    · subst unpacked
      cases Sign.ofBitVec (unpackSign b) <;> rfl
    · subst unpacked
      rfl
  · rw [pack_unpack endless]

/-- The bits of the opposite number. -/
theorem neg_ofBits (n : Nat) :
    -Float.ofBits (UInt64.ofNat n) = Float.ofBits (UInt64.ofNat (2 ^ 63 + n)) := by
  have opposite : (UInt64.ofNat (2 ^ 63 + n)).toBitVec.toNat =
      (2 ^ 63 + (UInt64.ofNat n).toBitVec.toNat) % 2 ^ 64 := by
    simp only [UInt64.toNat_toBitVec, UInt64.toNat_ofNat']
    omega
  have same :
      (UnpackedFloat.unpack Format.binary64 (UnpackedFloat.pack Format.binary64
        (UnpackedFloat.unpack Format.binary64 (UInt64.ofNat n).toBitVec))).neg =
        UnpackedFloat.unpack Format.binary64 (UInt64.ofNat (2 ^ 63 + n)).toBitVec := by
    rw [unpack_pack_unpack, unpack_flipped opposite]
  exact congrArg (fun u => Float.ofModel (Float.Model.pack u)) same

private theorem neg_packFloat (mantissa : Nat) (exponent : Int) :
    -packFloat false mantissa exponent = packFloat true mantissa exponent := by
  unfold packFloat
  simp only [Bool.false_eq_true, if_false, if_true, Nat.zero_add, twoPower_eq]
  split_ifs
  · exact neg_ofBits _
  · exact neg_ofBits _
  · rw [Nat.add_assoc]
    exact neg_ofBits _

private theorem neg_nearestFloat (p q : Nat) : -nearestFloat false p q = nearestFloat true p q := by
  unfold nearestFloat
  simp only
  split_ifs <;> exact neg_packFloat _ _

/-- The double nearest to the opposite number is the opposite double. -/
theorem neg_floatOfDecimal (coefficient : Nat) (exponent : Int) :
    -floatOfDecimal false coefficient exponent = floatOfDecimal true coefficient exponent := by
  unfold floatOfDecimal
  simp only
  split_ifs
  · exact neg_packFloat _ _
  · exact neg_packFloat _ _
  · exact neg_nearestFloat _ _

/-! ### Parts -/

namespace Binary

/-- The finite doubles are those that have parts. -/
theorem isFinite_eq_isSome (x : Float) : x.isFinite = (ofFloat? x).isSome := by
  have same := unpackExponent_eq_iff x.toBits.toBitVec
  change (UnpackedFloat.unpack Format.binary64 x.toBits.toBitVec).isFinite = _
  unfold UnpackedFloat.unpack ofFloat?
  by_cases endless : x.toBits.toNat / twoPower 52 % twoPower 11 = 2047
  · rw [if_pos endless]
    dsimp only
    rw [if_pos (same.2 endless)]
    split <;> rfl
  · rw [if_neg endless]
    dsimp only
    rw [if_neg (mt same.1 endless)]
    split
    · split <;> split <;> rfl
    · split <;> rfl

/-- The parts of a double are within bounds. -/
theorem bounds_of_ofFloat? {x : Float} {b : Binary} (found : ofFloat? x = some b) :
    b.mantissa < 2 ^ 53 ∧ b.exponent ≤ 971 := by
  unfold ofFloat? at found
  have field_lt : x.toBits.toNat / twoPower 52 % twoPower 11 < 2 ^ 11 :=
    Nat.mod_lt _ (twoPower_pos _)
  have fraction_lt : x.toBits.toNat % twoPower 52 < 2 ^ 52 := Nat.mod_lt _ (twoPower_pos _)
  have hidden : twoPower 52 = 2 ^ 52 := rfl
  dsimp only at found
  split at found
  · cases found
  · split at found <;> cases found
    all_goals
      dsimp only
      omega

/-- Sign, exponent and fraction do not overlap, so each can be read back. -/
theorem ofFloat?_ofBits (negative : Bool) {field fraction : Nat} (finite : field < 2047)
    (fraction_lt : fraction < 2 ^ 52) :
    ofFloat? (Float.ofBits (UInt64.ofNat
        ((if negative then twoPower 63 else 0) + field * twoPower 52 + fraction))) =
      some (if field = 0 then ⟨negative, fraction, -1074⟩
        else ⟨negative, 2 ^ 52 + fraction, (field : Int) - 1075⟩) := by
  have hidden : twoPower 52 = 2 ^ 52 := rfl
  have fields : twoPower 11 = 2 ^ 11 := rfl
  have sign : twoPower 63 = 2 ^ 63 := rfl
  obtain ⟨top, top_eq⟩ : ∃ top, (if negative then twoPower 63 else 0) = top := ⟨_, rfl⟩
  have top_or : negative = false ∧ top = 0 ∨ negative = true ∧ top = 2 ^ 63 := by
    cases negative
    · exact .inl ⟨rfl, top_eq.symm⟩
    · exact .inr ⟨rfl, top_eq.symm.trans sign⟩
  rw [top_eq, hidden]
  generalize bits_eq : top + field * 2 ^ 52 + fraction = bits
  have toNat_bits : (UInt64.ofNat bits).toNat = bits :=
    UInt64.toNat_ofNat_of_lt' (show bits < 2 ^ 64 by omega)
  -- from here on the bits are a number, and its parts are quotients and remainders
  have field_eq : bits / 2 ^ 52 % 2 ^ 11 = field := by omega
  have fraction_eq : bits % 2 ^ 52 = fraction := by omega
  have sign_eq : decide (bits / 2 ^ 63 = 1) = negative := by
    obtain ⟨rfl, top_eq⟩ | ⟨rfl, top_eq⟩ := top_or
    · exact decide_eq_false (by omega)
    · exact decide_eq_true (by omega)
  unfold ofFloat?
  rw [toBits_ofBits (by rw [toNat_bits]; omega), toNat_bits, hidden, fields, sign]
  dsimp only
  rw [field_eq, fraction_eq, sign_eq, if_neg finite.ne]
  split <;> rfl

/-- A double with a leading digit in the usual place is taken apart into what it was put together
from. -/
theorem ofFloat?_packFloat (negative : Bool) {mantissa : Nat} {exponent : Int}
    (normal : 2 ^ 52 ≤ mantissa) (mantissa_lt : mantissa < 2 ^ 53)
    (exponent_gt : -1075 < exponent) (exponent_lt : exponent < 972) :
    ofFloat? (packFloat negative mantissa exponent) = some ⟨negative, mantissa, exponent⟩ := by
  have hidden : twoPower 52 = 2 ^ 52 := rfl
  obtain ⟨field, same⟩ : ∃ field : Nat, exponent + 1075 = field :=
    ⟨(exponent + 1075).toNat, by omega⟩
  obtain ⟨fraction, rfl⟩ : ∃ fraction, mantissa = 2 ^ 52 + fraction :=
    Nat.exists_eq_add_of_le normal
  unfold packFloat
  dsimp only
  rw [if_neg (by omega), if_neg (by omega), same, Int.toNat_natCast, hidden,
    Nat.add_sub_cancel_left, ← hidden, ofFloat?_ofBits negative (by omega) (by omega),
    if_neg (by omega)]
  simp only [Option.some.injEq, mk.injEq, true_and]
  omega

/-- A mantissa without a leading digit in the usual place has the least exponent. -/
theorem ofFloat?_packFloat_of_short (negative : Bool) {mantissa : Nat} (exponent : Int)
    (short : mantissa < 2 ^ 52) :
    ofFloat? (packFloat negative mantissa exponent) = some ⟨negative, mantissa, -1074⟩ := by
  have hidden : twoPower 52 = 2 ^ 52 := rfl
  have fields := ofFloat?_ofBits negative (show 0 < 2047 by decide) short
  rw [Nat.zero_mul, Nat.add_zero, if_pos rfl] at fields
  unfold packFloat
  dsimp only
  rw [if_pos (by omega), fields]

end Binary

/-- A quotient without a rest is not rounded. -/
theorem roundedQuotient_of_dvd {p q : Nat} (divides : q ∣ p) : roundedQuotient p q = p / q := by
  have rest : p % q = 0 := Nat.mod_eq_zero_of_dvd divides
  unfold roundedQuotient
  dsimp only
  rw [rest, if_neg]
  rintro (less | ⟨half, odd⟩)
  · omega
  · rw [← half, Nat.mul_zero, Nat.div_zero] at odd
    omega

private theorem binaryExponent_one {n : Nat} (positive : 0 < n) : binaryExponent n 1 = n.log2 := by
  have at_most : 2 ^ n.log2 ≤ n := Nat.log2_self_le (by omega)
  have guess : (n.log2 : Int) - (Nat.log2 1 : Nat) = n.log2 := by
    rw [(Nat.log2_eq_iff (by decide)).2 (by decide : 2 ^ 0 ≤ 1 ∧ 1 < 2 ^ (0 + 1))]
    exact Int.sub_zero _
  unfold binaryExponent
  rw [guess]
  dsimp only
  rw [if_neg]
  simp only [Int.toNat_neg_natCast, Int.toNat_natCast, twoPower_eq]
  omega

/-- Moving the leading digit to its place loses nothing of an integer with at most 53 digits that
count. -/
theorem exists_moved {n mantissa exponent : Nat} (positive : 0 < n)
    (whole : n = mantissa * 2 ^ exponent) (mantissa_lt : mantissa < 2 ^ 53) :
    n.log2 ≤ 52 + exponent ∧ ∃ moved, n * 2 ^ (52 - n.log2) = 2 ^ (n.log2 - 52) * moved ∧
      2 ^ 52 ≤ moved ∧ moved < 2 ^ 53 := by
  obtain ⟨leading, leading_eq⟩ : ∃ leading, n.log2 = leading := ⟨_, rfl⟩
  obtain ⟨low, high⟩ := (Nat.log2_eq_iff (by omega)).1 leading_eq
  rw [leading_eq]
  have short : leading ≤ 52 + exponent := by
    have bound : n < 2 ^ (53 + exponent) := by
      rw [whole, Nat.pow_add]
      exact Nat.mul_lt_mul_of_pos_right mantissa_lt (Nat.two_pow_pos _)
    have := (Nat.pow_lt_pow_iff_right (by decide : 1 < 2)).1 (Nat.lt_of_le_of_lt low bound)
    omega
  have divides : 2 ^ (leading - 52) ∣ n * 2 ^ (52 - leading) := by
    refine Nat.dvd_mul_right_of_dvd ?_ _
    rw [whole]
    exact Nat.dvd_mul_left_of_dvd (Nat.pow_dvd_pow 2 (by omega)) _
  obtain ⟨moved, moved_eq⟩ := divides
  -- both bounds on the leading digit are moved by the same powers of two
  have shifts (k : Nat) : 2 ^ (leading - 52) * 2 ^ (52 + k) =
      2 ^ (leading + k) * 2 ^ (52 - leading) := by
    rw [← Nat.pow_add, ← Nat.pow_add]
    congr 1
    omega
  refine ⟨short, moved, moved_eq, ?_, ?_⟩
  · refine Nat.le_of_mul_le_mul_left ?_ (Nat.two_pow_pos (leading - 52))
    rw [← moved_eq, shifts 0]
    exact Nat.mul_le_mul_right _ low
  · refine Nat.lt_of_mul_lt_mul_left (a := 2 ^ (leading - 52)) ?_
    rw [← moved_eq, shifts 1]
    exact Nat.mul_lt_mul_of_pos_right high (Nat.two_pow_pos _)

/-- An integer with at most 53 binary digits that count is a double. -/
theorem ofFloat?_nearestFloat (negative : Bool) {n mantissa exponent : Nat} (positive : 0 < n)
    (whole : n = mantissa * 2 ^ exponent) (mantissa_lt : mantissa < 2 ^ 53)
    (exponent_le : exponent ≤ 971) :
    ∃ b : Binary, Binary.ofFloat? (nearestFloat negative n 1) = some b ∧
      b.negative = negative ∧ b.numerator / b.denominator = n := by
  obtain ⟨short, moved, moved_eq, at_least, less⟩ := exists_moved positive whole mantissa_lt
  generalize leading_eq : n.log2 = leading at short moved_eq
  have up : (-((leading : Int) - 52)).toNat = 52 - leading := by omega
  have down : ((leading : Int) - 52).toNat = leading - 52 := by omega
  -- so there is nothing to round
  have rounded : nearestFloat negative n 1 = packFloat negative moved (leading - 52) := by
    have exact : roundedQuotient (n * 2 ^ (52 - leading)) (1 * 2 ^ (leading - 52)) = moved := by
      rw [Nat.one_mul, roundedQuotient_of_dvd ⟨moved, moved_eq⟩, moved_eq,
        Nat.mul_div_cancel_left _ (Nat.two_pow_pos _)]
    unfold nearestFloat
    rw [if_neg (by omega), binaryExponent_one positive, leading_eq, Int.max_eq_left (by omega)]
    simp only [twoPower_eq, up, down, exact]
    rw [if_neg (by omega)]
  rw [rounded]
  refine ⟨_, Binary.ofFloat?_packFloat negative at_least less (by omega) (by omega), rfl, ?_⟩
  rw [Binary.numerator, Binary.denominator, up, down, twoPower_eq, twoPower_eq,
    Nat.mul_comm, ← moved_eq, Nat.mul_div_cancel _ (Nat.two_pow_pos _)]

namespace Binary

private theorem natAbs_truncate (b : Binary) : b.truncate.natAbs = b.numerator / b.denominator := by
  unfold truncate
  dsimp only
  split
  · rw [Int.natAbs_neg, Int.natAbs_natCast]
  · exact Int.natAbs_natCast _

/-- The integer part of a double has no more binary digits that count than the double. -/
theorem natAbs_truncate_eq_mul {b : Binary} (mantissa_lt : b.mantissa < 2 ^ 53)
    (exponent_le : b.exponent ≤ 971) :
    ∃ mantissa exponent, b.truncate.natAbs = mantissa * 2 ^ exponent ∧ mantissa < 2 ^ 53 ∧
      exponent ≤ 971 := by
  rw [natAbs_truncate, numerator, denominator, twoPower_eq, twoPower_eq]
  rcases Int.le_total 0 b.exponent with large | small
  · have down : (-b.exponent).toNat = 0 := by omega
    exact ⟨b.mantissa, b.exponent.toNat, by rw [down, Nat.pow_zero, Nat.div_one],
      mantissa_lt, by omega⟩
  · have up : b.exponent.toNat = 0 := by omega
    refine ⟨_, 0, (Nat.mul_one _).symm, ?_, by decide⟩
    rw [up, Nat.pow_zero, Nat.mul_one]
    exact Nat.lt_of_le_of_lt (Nat.div_le_self _ _) mantissa_lt

end Binary

/-- The integer part of a double is a double. -/
theorem realOfInteger_truncate {x : Float} {b : Binary} (found : Binary.ofFloat? x = some b) :
    ∃ y b', realOfInteger b.truncate = .ok y ∧ Binary.ofFloat? y = some b' ∧
      b'.truncate = b.truncate := by
  obtain ⟨mantissa_lt, exponent_le⟩ := Binary.bounds_of_ofFloat? found
  obtain ⟨mantissa, exponent, whole, short, small⟩ :=
    Binary.natAbs_truncate_eq_mul mantissa_lt exponent_le
  generalize b.truncate = n at whole ⊢
  suffices ∃ b', Binary.ofFloat? (floatOfInt n) = some b' ∧ b'.truncate = n by
    obtain ⟨b', found, same⟩ := this
    refine ⟨_, b', ?_, found, same⟩
    rw [realOfInteger, Binary.isFinite_eq_isSome, found]
    rfl
  by_cases zero : n = 0
  · subst zero
    exact ⟨⟨false, 0, -1074⟩, by decide +kernel, by decide +kernel⟩
  · obtain ⟨b', found, sign, magnitude⟩ :=
      ofFloat?_nearestFloat (decide (n < 0)) (by omega) whole short small
    refine ⟨b', found, ?_⟩
    rw [Binary.truncate, magnitude, sign]
    split
    next negative =>
      have := of_decide_eq_true negative
      omega
    next positive =>
      have : ¬ n < 0 := by simpa using positive
      omega

end CurveBoard
