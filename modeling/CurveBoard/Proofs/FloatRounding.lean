import CurveBoard.Proofs.FloatOrder
import CurveBoard.Proofs.FloatSum
import Mathlib.Algebra.Ring.Parity

/-!
# Differences and products of doubles

A difference and a product of doubles are rounded to the nearest double, a number halfway between
two doubles to the one whose last digit is even. What is used of that is said here in rational
numbers: at which place a positive number is rounded, how near the digits that are left are to it,
and when they are even.
-/
namespace CurveBoard

open Float.Model UnpackedFloat

/-! ### The last digit -/

private theorem roundedMantissa_eq (m : Nat) (round sticky : Bool) :
    (⟨m, round, sticky⟩ : ExtendedMantissa).roundedMantissa =
      if round then if sticky then m + 1 else m + m % 2 else m := by
  cases round <;> cases sticky <;>
    simp [ExtendedMantissa.roundedMantissa, ExtendedMantissa.accuracy, Accuracy.roundToNearestEven]

/-- What is less than half a digit is dropped, what is more is rounded up, and a half goes to the
even digit. -/
theorem roundedMantissa_shiftRight (m k : Nat) :
    let rounded := ((⟨m, false, false⟩ : ExtendedMantissa) >>> k).roundedMantissa
    2 * (m % 2 ^ k) < 2 ^ k ∧ rounded = m / 2 ^ k ∨ 2 * (m % 2 ^ k) = 2 ^ k ∧
      rounded = m / 2 ^ k + m / 2 ^ k % 2 ∨
      2 ^ k < 2 * (m % 2 ^ k) ∧ rounded = m / 2 ^ k + 1 := by
  cases k with
  | zero =>
    refine .inl ⟨by simp [Nat.mod_one], ?_⟩
    rw [Nat.pow_zero, Nat.div_one]
    exact roundedMantissa_eq m false false
  | succ k =>
    have digits : m % 2 ^ (k + 1) = m % 2 ^ k + 2 ^ k * (m / 2 ^ k % 2) := by
      rw [Nat.pow_succ, Nat.mod_mul]
    have less : m % 2 ^ k < 2 ^ k := Nat.mod_lt _ (Nat.two_pow_pos k)
    rw [shiftRight_digits, roundedMantissa_eq, digits, Nat.pow_succ]
    simp only [bne_iff_ne]
    rcases Nat.mod_two_eq_zero_or_one (m / 2 ^ k) with even | odd
    · rw [even]
      simp
      omega
    · rw [odd]
      simp
      split <;> omega

/-- The same in fractions of a digit. -/
theorem near_of_rounded {digit kept rest left : Nat} (below : rest < digit)
    (rounded : 2 * rest < digit ∧ left = kept ∨ 2 * rest = digit ∧ left = kept + kept % 2 ∨
      digit < 2 * rest ∧ left = kept + 1) :
    |(rest : ℚ) + digit * (kept - left)| ≤ digit / 2 ∧
      (|(rest : ℚ) + digit * (kept - left)| = digit / 2 → Even left) := by
  rcases rounded with ⟨less, rfl⟩ | ⟨half, rfl⟩ | ⟨more, rfl⟩
  · have less : 2 * (rest : ℚ) < digit := by exact_mod_cast less
    rw [sub_self, mul_zero, add_zero, abs_of_nonneg (Nat.cast_nonneg rest)]
    exact ⟨by linarith, fun half => by linarith⟩
  · have half : 2 * (rest : ℚ) = digit := by exact_mod_cast half
    refine ⟨?_, fun _ => Nat.even_iff.2 (by omega)⟩
    rw [← half]
    rcases Nat.mod_two_eq_zero_or_one kept with even | odd
    · rw [even, abs_le]
      push_cast
      constructor <;> linarith [(Nat.cast_nonneg rest : (0 : ℚ) ≤ rest)]
    · rw [odd, abs_le]
      push_cast
      constructor <;> linarith [(Nat.cast_nonneg rest : (0 : ℚ) ≤ rest)]
  · have more : (digit : ℚ) < 2 * rest := by exact_mod_cast more
    have below : (rest : ℚ) < digit := by exact_mod_cast below
    have size : |(rest : ℚ) + digit * (kept - (kept + 1 : Nat))| = digit - rest := by
      rw [abs_of_nonpos] <;> push_cast <;> linarith
    rw [size]
    exact ⟨by linarith, fun half => by linarith⟩

/-- The digits that are left of a number are at most half a digit away from it, and even if it is as
much as that. -/
theorem roundedDigits_near (m : Nat) (e place : Int) :
    |(m : ℚ) * 2 ^ e - roundedDigits m e place * 2 ^ place| ≤ 2 ^ place / 2 ∧
      (|(m : ℚ) * 2 ^ e - roundedDigits m e place * 2 ^ place| = 2 ^ place / 2 →
        Even (roundedDigits m e place)) := by
  have rounded := roundedMantissa_shiftRight (m <<< (e - place).toNat) (place - e).toNat
  have below := Nat.mod_lt (m <<< (e - place).toNat) (Nat.two_pow_pos (place - e).toNat)
  have whole := Nat.div_add_mod (m <<< (e - place).toNat) (2 ^ (place - e).toNat)
  -- both in units of the smaller exponent
  have number := cast_shifted m e place
  have unit := cast_shifted 1 place e
  rw [← Nat.shiftLeft_eq, min_comm] at number
  rw [Nat.cast_one, one_mul, Nat.one_mul] at unit
  have scale_pos := two_zpow_pos (min place e)
  rw [number, unit]
  dsimp only at rounded
  rw [← roundedDigits] at rounded
  generalize m <<< (e - place).toNat = shifted at *
  generalize 2 ^ (place - e).toNat = digit at *
  generalize roundedDigits m e place = left at *
  generalize shifted / digit = kept at *
  generalize shifted % digit = rest at *
  generalize (2 : ℚ) ^ min place e = scale at *
  have off : ((shifted : ℚ)) * scale - left * (digit * scale) =
      (rest + digit * (kept - left)) * scale := by
    rw [← whole]
    push_cast
    ring
  have half : (digit : ℚ) * scale / 2 = digit / 2 * scale := by ring
  rw [off, half, abs_mul, abs_of_pos scale_pos, mul_le_mul_iff_left₀ scale_pos,
    mul_left_inj' scale_pos.ne']
  exact near_of_rounded below rounded

/-! ### Nearest doubles -/

/-- So many digits down to a place are nearest to a positive number: the place is as far down as
doubles have it, and if two are equally near, these are even. -/
structure IsNearest (v : ℚ) (digits : Nat) (place : Int) : Prop where
  least : -1074 ≤ place
  below : v < 2 ^ 53 * 2 ^ place
  leading : place = -1074 ∨ 2 ^ 52 * 2 ^ place ≤ v
  near : |v - digits * 2 ^ place| ≤ 2 ^ place / 2
  even : |v - digits * 2 ^ place| = 2 ^ place / 2 → Even digits

private theorem isNearest_roundedDigits {m : Nat} (positive : 0 < m) (e : Int) :
    IsNearest (m * 2 ^ e) (roundedDigits m e (lastPlace m e)) (lastPlace m e) where
  least := le_max_right _ _
  below := lt_lastPlace m e
  leading :=
    (le_max_right _ _ : -1074 ≤ lastPlace m e).eq_or_lt.imp Eq.symm (lastPlace_le positive)
  near := (roundedDigits_near m e (lastPlace m e)).1
  even := (roundedDigits_near m e (lastPlace m e)).2

namespace IsNearest

variable {v : ℚ} {digits : Nat} {place : Int}

theorem le_digits (nearest : IsNearest v digits place) {n : Nat}
    (at_least : (n : ℚ) * 2 ^ place ≤ v) :
    n ≤ digits := by
  by_contra! fewer
  have fewer : (digits : ℚ) + 1 ≤ n := by exact_mod_cast fewer
  have unit_pos := two_zpow_pos place
  have more : ((digits : ℚ) + 1) * 2 ^ place ≤ n * 2 ^ place :=
    mul_le_mul_of_nonneg_right fewer unit_pos.le
  linarith [(abs_le.1 nearest.near).2]

theorem digits_le (nearest : IsNearest v digits place) {n : Nat} (at_most : v ≤ n * 2 ^ place) :
    digits ≤ n := by
  by_contra! more
  have more : (n : ℚ) + 1 ≤ digits := by exact_mod_cast more
  have unit_pos := two_zpow_pos place
  have more : ((n : ℚ) + 1) * 2 ^ place ≤ digits * 2 ^ place :=
    mul_le_mul_of_nonneg_right more unit_pos.le
  linarith [(abs_le.1 nearest.near).1]

private theorem digits_short (nearest : IsNearest v digits place) : digits ≤ 2 ^ 53 :=
  nearest.digits_le (by exact_mod_cast nearest.below.le)

private theorem digits_leading (nearest : IsNearest v digits place) (above : -1074 < place) :
    2 ^ 52 ≤ digits :=
  nearest.le_digits (by exact_mod_cast nearest.leading.resolve_left above.ne')

/-- From one on the leading digit is in its place. -/
theorem leading_of_one_le (nearest : IsNearest v digits place) (large : 1 ≤ v) :
    2 ^ 52 * 2 ^ place ≤ v := by
  refine nearest.leading.resolve_left fun least => absurd nearest.below (not_lt.2 ?_)
  calc (2 : ℚ) ^ 53 * 2 ^ place ≤ 2 ^ 53 * 2 ^ (-53 : Int) := by
        rw [least]
        exact mul_le_mul_of_nonneg_left (zpow_le_zpow_right₀ one_le_two (by norm_num))
          (by norm_num)
    _ = 1 := by norm_num
    _ ≤ v := large

theorem place_lt (nearest : IsNearest v digits place) {bound : Int} (least : -1074 < bound)
    (small : v < 2 ^ 52 * 2 ^ bound) : place < bound := by
  rcases nearest.leading with rfl | leading
  · exact least
  · exact (zpow_lt_zpow_iff_right₀ one_lt_two).1
      (lt_of_mul_lt_mul_left (leading.trans_lt small) (by norm_num))

theorem lt_place (nearest : IsNearest v digits place) {bound : Int}
    (large : 2 ^ 53 * 2 ^ bound ≤ v) :
    bound < place :=
  (zpow_lt_zpow_iff_right₀ one_lt_two).1
    (lt_of_mul_lt_mul_left (large.trans_lt nearest.below) (by norm_num))

/-- Rounding does not go below a double. -/
theorem le_of_le (nearest : IsNearest v digits place) {m : Nat} {e : Int}
    (canonical : IsCanonical m e) (at_least : (m : ℚ) * 2 ^ e ≤ v) :
    (m : ℚ) * 2 ^ e ≤ digits * 2 ^ place := by
  have unit_pos := two_zpow_pos place
  rcases lt_trichotomy e place with below | rfl | above
  · have leading : (2 : ℚ) ^ 52 ≤ digits := by
      exact_mod_cast nearest.digits_leading (canonical.least.trans_lt below)
    exact (canonical.lt_of_lt below).le.trans (mul_le_mul_of_nonneg_right leading unit_pos.le)
  · exact mul_le_mul_of_nonneg_right (by exact_mod_cast nearest.le_digits at_least) unit_pos.le
  · have larger := canonical.le_of_lt nearest.least above
    exact absurd nearest.below (not_lt.2 (larger.trans at_least))

/-- Rounding does not go above a double. -/
theorem le_of_ge (nearest : IsNearest v digits place) {m : Nat} {e : Int}
    (canonical : IsCanonical m e) (at_most : v ≤ m * 2 ^ e) :
    (digits : ℚ) * 2 ^ place ≤ m * 2 ^ e := by
  have unit_pos := two_zpow_pos place
  rcases lt_trichotomy e place with below | rfl | above
  · have leading := nearest.leading.resolve_left (canonical.least.trans_lt below).ne'
    exact absurd (canonical.lt_of_lt below) (not_lt.2 (leading.trans at_most))
  · exact mul_le_mul_of_nonneg_right (by exact_mod_cast nearest.digits_le at_most) unit_pos.le
  · have short : (digits : ℚ) ≤ 2 ^ 53 := by exact_mod_cast nearest.digits_short
    exact (mul_le_mul_of_nonneg_right short unit_pos.le).trans
      (canonical.le_of_lt nearest.least above)

end IsNearest

/-! ### Positive doubles -/

/-- The difference of positive doubles, in units of the smaller exponent. -/
theorem sub_finite {m n : Nat} (e e' : Int) (some : 0 < m) (some' : 0 < n) :
    UnpackedFloat.sub Format.binary64 (.finite .positive m e some) (.finite .positive n e' some') =
      UnpackedFloat.normalize Format.binary64
        ((m * 2 ^ (e - e').toNat : Nat) - (n * 2 ^ (e' - e).toNat : Nat)) (min e e') .positive := by
  unfold UnpackedFloat.sub decreaseExponent
  simp only [Nat.shiftLeft_eq]
  rw [show (e - min e e').toNat = (e - e').toNat by omega, show (e' - min e e').toNat =
    (e' - e).toNat by omega]
  rfl

/-- A double is positive and finite and has a value. -/
def HasValue (x : Float) (a : ℚ) : Prop :=
  ∃ m e some, x.toModel.unpack = .finite .positive m e some ∧ a = m * 2 ^ e

def IsZero (x : Float) : Prop := ∃ sign, x.toModel.unpack = .zero sign

/-- What a double is that a positive number is rounded to. -/
inductive Rounds (v : ℚ) (x : Float) : Prop
  | zero (none : IsZero x) (nearest : IsNearest v 0 (-1074))
  | value {digits : Nat} {place : Int} (nearest : IsNearest v digits place)
      (value : HasValue x (digits * 2 ^ place))
  | infinite {digits : Nat} {place : Int} (nearest : IsNearest v digits place)
    (large : (2 : ℚ) ^ 53 * 2 ^ (971 : Int) ≤ digits * 2 ^ place)
    (infinite : x.toModel.unpack = .infinity .positive)

private theorem rounds_of_unpack {x : Float} {m : Nat} (positive : 0 < m) {e : Int}
    (rounded : x.toModel.unpack = repacked (UnpackedFloat.round Format.binary64 .positive m e)) :
    Rounds (m * 2 ^ e) x := by
  have nearest := isNearest_roundedDigits positive e
  generalize same : UnpackedFloat.round Format.binary64 .positive m e = u at rounded
  have rounds := same ▸ round_roundsTo .positive positive e
  cases rounds with
  | zero none =>
    -- digits are lost altogether at the least exponent only
    have least : lastPlace m e = -1074 := by
      by_contra! other
      have leading := nearest.digits_leading (lt_of_le_of_ne nearest.least other.symm)
      omega
    rw [none, least] at nearest
    exact .zero ⟨.positive, rounded.trans rfl⟩ nearest
  | finite some short =>
    rw [repacked_finite _ (isCanonical_roundedDigits positive short)] at rounded
    split at rounded
    · exact .value nearest ⟨_, _, some, rounded, rfl⟩
    next above =>
      have canonical := isCanonical_roundedDigits positive short
      exact .infinite nearest (canonical.le_of_lt (by omega) (not_le.1 above)) rounded
  | carry some full =>
    have carried : (roundedDigits m e (lastPlace m e) : ℚ) * 2 ^ lastPlace m e =
        (2 ^ 52 : Nat) * 2 ^ (lastPlace m e + 1) := by
      rw [full, zpow_add_one₀ two_ne_zero]
      push_cast
      ring
    rw [repacked_finite _ (isCanonical_carry m e)] at rounded
    split at rounded
    · exact .value nearest ⟨_, _, some, rounded, carried⟩
    next above =>
      have large := (isCanonical_carry m e).le_of_lt (by omega) (not_le.1 above)
      exact .infinite nearest (carried ▸ large) rounded

/-- What has no digits below its last place is rounded as it is. -/
theorem round_eq_roundWithAccuracy {sign : Sign} {m : Nat} {e : Int} (above : e ≤ lastPlace m e) :
    UnpackedFloat.round Format.binary64 sign m e =
      roundWithAccuracy Format.binary64 sign m e .exact := by
  have stay : (e - lastPlace m e).toNat = 0 := by omega
  unfold UnpackedFloat.round
  simp only [targetExponent_eq, decreaseExponent, stay, Nat.shiftLeft_zero, Int.natCast_zero,
    Int.sub_zero]

/-- A product has more digits than a double. -/
theorem le_lastPlace_mul {m m' : Nat} {e e' : Int} (canonical : IsCanonical m e)
    (canonical' : IsCanonical m' e') (some : 0 < m) (some' : 0 < m') :
    e + e' ≤ lastPlace (m * m') (e + e') := by
  have many (full : 2 ^ 52 ≤ m * m') : 52 ≤ (m * m').log2 := (Nat.le_log2 (by omega)).2 full
  have bound := canonical.least
  have bound' := canonical'.least
  unfold lastPlace
  rcases canonical.leading with full | least
  · have many := many (full.trans (Nat.le_mul_of_pos_right m some'))
    omega
  · rcases canonical'.leading with full | least'
    · have many := many (full.trans (Nat.le_mul_of_pos_left m' some))
      omega
    · omega

theorem atMost_iff {m m' : Nat} {e e' : Int} (canonical : IsCanonical m e)
    (canonical' : IsCanonical m' e') :
    AtMost m e m' e' ↔ (m : ℚ) * 2 ^ e ≤ m' * 2 ^ e' := by
  have leading {n : Nat} {d d' : Int} (canonical : IsCanonical n d) (least : -1074 ≤ d')
      (above : d' < d) :
      (2 : ℚ) ^ 52 ≤ n := by exact_mod_cast canonical.leading.resolve_right (by omega)
  unfold AtMost
  rcases lt_trichotomy e e' with below | rfl | above
  · refine iff_of_true (.inl below) ((canonical.lt_of_lt below).le.trans ?_)
    exact mul_le_mul_of_nonneg_right (leading canonical' canonical.least below) (two_zpow_pos e').le
  · simp [two_zpow_pos]
  · refine iff_of_false (by omega) (not_le.2 ((canonical'.lt_of_lt above).trans_le ?_))
    exact mul_le_mul_of_nonneg_right (leading canonical canonical'.least above) (two_zpow_pos e).le

/-- There is no double between one and the next. -/
theorem IsCanonical.next_le {n m : Nat} {d e : Int} (canonical : IsCanonical n d)
    (canonical' : IsCanonical m e) (less : (n : ℚ) * 2 ^ d < m * 2 ^ e) :
    (n + 1 : Nat) * (2 : ℚ) ^ d ≤ m * 2 ^ e := by
  have later : d < e ∨ d = e ∧ n < m := by
    have notAtMost := mt (atMost_iff canonical' canonical).1 (not_le.2 less)
    unfold AtMost at notAtMost
    omega
  rcases later with below | ⟨rfl, more⟩
  · have short : ((n + 1 : Nat) : ℚ) ≤ 2 ^ 53 := by exact_mod_cast canonical.short
    exact (mul_le_mul_of_nonneg_right short (two_zpow_pos d).le).trans
      (canonical'.le_of_lt canonical.least below)
  · exact mul_le_mul_of_nonneg_right (by exact_mod_cast more) (two_zpow_pos d).le

/-- How many doubles are below a positive one, but for a constant. -/
def floatRank (x : Float) : Nat :=
  match x.toModel.unpack with
  | .finite _ m e _ => (e + 1074).toNat * 2 ^ 53 + m
  | _ => 0

section Values

variable {x y : Float} {a b : ℚ}

theorem HasValue.pos (value : HasValue x a) : 0 < a := by
  obtain ⟨m, e, some, -, rfl⟩ := value
  exact scaled_pos some e

theorem HasValue.exists_canonical (value : HasValue x a) :
    ∃ m e some, x.toModel.unpack = .finite .positive m e some ∧ a = m * 2 ^ e ∧
      IsCanonical m e ∧ e ≤ 971 := by
  obtain ⟨m, e, some, unpacked, rfl⟩ := value
  exact ⟨m, e, some, unpacked, rfl, isCanonical_of_unpack unpacked⟩

private theorem compare_finite {m m' : Nat} {e e' : Int} (some : 0 < m) (some' : 0 < m') :
    (UnpackedFloat.finite .positive m e some).compare (.finite .positive m' e' some') =
      Option.some ((compare e e').then (compare m m')) := rfl

private theorem finite_lt_finite_iff {m m' : Nat} {e e' : Int} {some : 0 < m} {some' : 0 < m'} :
    (UnpackedFloat.finite .positive m e some).lt (.finite .positive m' e' some') = true ↔
      ¬ AtMost m' e' m e := by
  rw [UnpackedFloat.lt, compare_finite, beq_iff_eq, Option.some.injEq, Ordering.then_eq_lt,
    compare_lt_iff_lt, compare_eq_iff_eq, compare_lt_iff_lt]
  unfold AtMost
  omega

private theorem finite_beq_finite_iff {m m' : Nat} {e e' : Int} (some : 0 < m) (some' : 0 < m') :
    (UnpackedFloat.finite .positive m e some).beq (.finite .positive m' e' some') = true ↔
      e = e' ∧ m = m' := by
  rw [UnpackedFloat.beq, compare_finite, beq_iff_eq, Option.some.injEq, Ordering.then_eq_eq,
    compare_eq_iff_eq, compare_eq_iff_eq]

theorem HasValue.le_iff (value : HasValue x a) (value' : HasValue y b) : x ≤ y ↔ a ≤ b := by
  obtain ⟨m, e, some, unpacked, rfl, canonical, -⟩ := value.exists_canonical
  obtain ⟨m', e', some', unpacked', rfl, canonical', -⟩ := value'.exists_canonical
  rw [float_le_iff, unpacked, unpacked', finite_le_finite_iff, atMost_iff canonical canonical']

theorem HasValue.lt_iff (value : HasValue x a) (value' : HasValue y b) : x < y ↔ a < b := by
  obtain ⟨m, e, some, unpacked, rfl, canonical, -⟩ := value.exists_canonical
  obtain ⟨m', e', some', unpacked', rfl, canonical', -⟩ := value'.exists_canonical
  rw [float_lt_iff, unpacked, unpacked', finite_lt_finite_iff,
    atMost_iff canonical' canonical, not_le]

theorem floatRank_lt_floatRank (value : HasValue x a) (value' : HasValue y b) (less : a < b) :
    floatRank x < floatRank y := by
  obtain ⟨m, e, some, unpacked, rfl, canonical, -⟩ := value.exists_canonical
  obtain ⟨m', e', some', unpacked', rfl, canonical', -⟩ := value'.exists_canonical
  have notAtMost := mt (atMost_iff canonical' canonical).1 (not_le.2 less)
  have short := canonical.short
  have least := canonical.least
  unfold AtMost at notAtMost
  rw [floatRank, floatRank, unpacked, unpacked']
  dsimp only
  omega

theorem floatRank_lt (value : HasValue x a) : floatRank x < 2 ^ 64 := by
  obtain ⟨m, e, some, unpacked, -, canonical, small⟩ := value.exists_canonical
  have short := canonical.short
  have least := canonical.least
  rw [floatRank, unpacked]
  dsimp only
  omega

theorem HasValue.congr (value : HasValue x a) (same : x.toModel.unpack = y.toModel.unpack) :
    HasValue y a := by
  obtain ⟨m, e, some, unpacked, value⟩ := value
  exact ⟨m, e, some, same ▸ unpacked, value⟩

/-- Doubles with the same value are the same, as they are unpacked. -/
theorem HasValue.unpack_eq (value : HasValue x a) (value' : HasValue y a) :
    x.toModel.unpack = y.toModel.unpack := by
  obtain ⟨m, e, some, unpacked, rfl, canonical, -⟩ := value.exists_canonical
  obtain ⟨m', e', some', unpacked', same, canonical', -⟩ := value'.exists_canonical
  obtain ⟨rfl, rfl⟩ :=
    ((atMost_iff canonical canonical').2 same.le).antisymm
      ((atMost_iff canonical' canonical).2 same.ge)
  rw [unpacked, unpacked']

theorem HasValue.unique (value : HasValue x a) (value' : HasValue x b) : a = b := by
  obtain ⟨m, e, some, unpacked, rfl⟩ := value
  obtain ⟨m', e', some', unpacked', rfl⟩ := value'
  rw [unpacked] at unpacked'
  cases unpacked'
  rfl

theorem HasValue.beq_iff (value : HasValue x a) (value' : HasValue y b) :
    (x == y) = true ↔ a = b := by
  obtain ⟨m, e, some, unpacked, same⟩ := value
  obtain ⟨m', e', some', unpacked', same'⟩ := value'
  have parts : (x == y) = true ↔ e = e' ∧ m = m' := by
    rw [← finite_beq_finite_iff some some', ← unpacked, ← unpacked']
    exact Iff.rfl
  rw [parts]
  constructor
  · rintro ⟨rfl, rfl⟩
    rw [same, same']
  · rintro rfl
    have unpack_eq :=
      HasValue.unpack_eq ⟨m, e, some, unpacked, same⟩ ⟨m', e', some', unpacked', same'⟩
    rw [unpacked, unpacked'] at unpack_eq
    cases unpack_eq
    exact ⟨rfl, rfl⟩

theorem toModel_unpack_sub (x y : Float) : (x - y).toModel.unpack =
    repacked (UnpackedFloat.sub Format.binary64 x.toModel.unpack y.toModel.unpack) := by
  rfl

private theorem toModel_unpack_mul (x y : Float) : (x * y).toModel.unpack =
    repacked (UnpackedFloat.mul Format.binary64 x.toModel.unpack y.toModel.unpack) := by
  rfl

theorem rounds_mul (value : HasValue x a) (value' : HasValue y b) : Rounds (a * b) (x * y) := by
  obtain ⟨m, e, some, unpacked, rfl, canonical, -⟩ := value.exists_canonical
  obtain ⟨m', e', some', unpacked', rfl, canonical', -⟩ := value'.exists_canonical
  have number : (m : ℚ) * 2 ^ e * (m' * 2 ^ e') = (m * m' : Nat) * 2 ^ (e + e') := by
    rw [zpow_add₀ two_ne_zero]
    push_cast
    ring
  rw [number]
  refine rounds_of_unpack (Nat.mul_pos some some') ?_
  rw [toModel_unpack_mul, unpacked, unpacked',
    round_eq_roundWithAccuracy (le_lastPlace_mul canonical canonical' some some')]
  rfl

theorem rounds_sub (value : HasValue x a) (value' : HasValue y b) (less : b < a) :
    Rounds (a - b) (x - y) := by
  obtain ⟨m, e, some, unpacked, rfl⟩ := value
  obtain ⟨m', e', some', unpacked', rfl⟩ := value'
  have shifted := cast_shifted m e e'
  have shifted' := cast_shifted m' e' e
  rw [min_comm] at shifted'
  rw [shifted, shifted'] at less ⊢
  have less' : m' * 2 ^ (e' - e).toNat < m * 2 ^ (e - e').toNat := by
    exact_mod_cast lt_of_mul_lt_mul_right less (two_zpow_pos _).le
  have number : ((m * 2 ^ (e - e').toNat - m' * 2 ^ (e' - e).toNat : Nat) : ℚ) * 2 ^ min e e' =
      (m * 2 ^ (e - e').toNat : Nat) * 2 ^ min e e' -
        (m' * 2 ^ (e' - e).toNat : Nat) * 2 ^ min e e' := by
    rw [Nat.cast_sub less'.le, sub_mul]
  rw [← number]
  refine rounds_of_unpack (Nat.sub_pos_of_lt less') ?_
  rw [toModel_unpack_sub, unpacked, unpacked', sub_finite, normalize_positive (by omega)]
  congr 2
  omega

theorem zero_unpacked : (0.0 : Float).toModel.unpack = .zero .positive := rfl

private theorem zero_lt_unpacked_iff {u : UnpackedFloat} :
    (UnpackedFloat.zero .positive).lt u = true ↔
    (∃ m e some, u = .finite .positive m e some) ∨ u = .infinity .positive := by
  constructor
  · intro less
    cases u with
    | notANumber => cases less
    | zero sign => cases less
    | infinity sign =>
      cases sign with
      | negative => cases less
      | positive => exact .inr rfl
    | finite sign m e some =>
      cases sign with
      | negative => cases less
      | positive => exact .inl ⟨m, e, some, rfl⟩
  · rintro (⟨m, e, some, rfl⟩ | rfl) <;> rfl

/-- A positive double has a value or is infinite. -/
theorem float_pos_iff :
    0.0 < x ↔ (∃ a, HasValue x a) ∨ x.toModel.unpack = .infinity .positive := by
  rw [float_lt_iff, zero_unpacked, zero_lt_unpacked_iff]
  refine or_congr_left ⟨?_, ?_⟩
  · rintro ⟨m, e, some, unpacked⟩
    exact ⟨_, m, e, some, unpacked, rfl⟩
  · rintro ⟨a, m, e, some, unpacked, -⟩
    exact ⟨m, e, some, unpacked⟩

theorem HasValue.zero_lt (value : HasValue x a) : 0.0 < x := float_pos_iff.2 (.inl ⟨a, value⟩)

/-- What is above a positive double is positive. -/
theorem HasValue.zero_lt_of_lt (value : HasValue x a) (less : x < y) : 0.0 < y := by
  obtain ⟨m, e, some, unpacked, -⟩ := value
  rw [float_lt_iff, unpacked] at less
  rw [float_lt_iff, zero_unpacked]
  generalize y.toModel.unpack = u at less ⊢
  cases u with
  | notANumber => cases less
  | zero sign => cases less
  | infinity sign =>
    cases sign with
    | negative => cases less
    | positive => rfl
  | finite sign m' e' some' =>
    cases sign with
    | negative => cases less
    | positive => rfl

/-- What is positive and at most a finite double is finite. -/
theorem exists_hasValue_of_le (positive : 0.0 < x) (value : HasValue y b) (at_most : x ≤ y) :
    ∃ a, HasValue x a := by
  refine (float_pos_iff.1 positive).resolve_right fun infinite => ?_
  obtain ⟨m, e, some, unpacked, -⟩ := value
  rw [float_le_iff, infinite, unpacked] at at_most
  cases at_most

/-- Subtracting what is not less leaves nothing positive. -/
theorem not_pos_sub (value : HasValue x a) (value' : HasValue y b) (at_most : a ≤ b) :
    ¬ 0.0 < x - y := by
  intro positive
  have less : (UnpackedFloat.zero .positive).lt
      (repacked (UnpackedFloat.sub Format.binary64 x.toModel.unpack y.toModel.unpack)) = true :=
    (float_lt_iff 0.0 (x - y)).1 positive
  obtain ⟨m, e, some, unpacked, rfl⟩ := value
  obtain ⟨m', e', some', unpacked', rfl⟩ := value'
  rw [unpacked, unpacked', sub_finite] at less
  -- both in units of the smaller exponent, as they are subtracted
  have shifted := cast_shifted m e e'
  have shifted' := cast_shifted m' e' e
  rw [min_comm] at shifted'
  rw [shifted, shifted', mul_le_mul_iff_left₀ (two_zpow_pos _), Nat.cast_le] at at_most
  rcases at_most.lt_or_eq with below | same
  · rw [normalize_negative (by omega)] at less
    have lacking :
        0 < (-((m * 2 ^ (e - e').toNat : Nat) - (m' * 2 ^ (e' - e).toNat : Nat) : Int)).toNat := by
      omega
    rcases round_cases .negative lacking (min e e') with none |
      ⟨n, d, some'', rounded, canonical⟩
    · rw [none] at less
      cases less
    · rw [rounded, repacked_finite _ canonical] at less
      split at less
      · cases less
      · cases less
  · rw [same, Int.sub_self, normalize_zero] at less
    cases less

/-- The least double above one. -/
theorem HasValue.next_one (value : HasValue x a) (large : 1 < a) : 1 + 2 ^ (-52 : Int) ≤ a := by
  obtain ⟨m, e, some, -, rfl, canonical, -⟩ := value.exists_canonical
  have one : IsCanonical (2 ^ 52) (-52) := ⟨by norm_num, by norm_num, .inl le_rfl⟩
  have next := one.next_le canonical (by norm_num; exact large)
  norm_num at next ⊢
  exact next

/-- A positive double is a multiple of the least one. -/
theorem HasValue.exists_multiple (value : HasValue x a) :
    ∃ k : Nat, 0 < k ∧ a = k * 2 ^ (-1074 : Int) := by
  obtain ⟨m, e, some, -, rfl, canonical, -⟩ := value.exists_canonical
  refine ⟨m * 2 ^ (e + 1074).toNat, Nat.mul_pos some (Nat.two_pow_pos _), ?_⟩
  have least := canonical.least
  have split : (e + 1074).toNat + (-1074 : Int) = e := by omega
  rw [Nat.cast_mul, Nat.cast_pow, Nat.cast_two, mul_assoc, ← zpow_natCast,
    ← zpow_add₀ two_ne_zero, split]

private theorem HasValue.lt_largest (value : HasValue x a) : a < 2 ^ 53 * 2 ^ (971 : Int) := by
  obtain ⟨m, e, some, -, rfl, canonical, small⟩ := value.exists_canonical
  have short : (m : ℚ) < 2 ^ 53 := by exact_mod_cast canonical.short
  calc (m : ℚ) * 2 ^ e < 2 ^ 53 * 2 ^ e := mul_lt_mul_of_pos_right short (two_zpow_pos e)
    _ ≤ 2 ^ 53 * 2 ^ (971 : Int) :=
      mul_le_mul_of_nonneg_left (zpow_le_zpow_right₀ one_le_two small) (by norm_num)

/-- What is more than half of the least double and not more than some double is rounded to a
positive one. -/
theorem Rounds.exists_value {v : ℚ} (rounds : Rounds v x) (some : 2 ^ (-1074 : Int) / 2 < v)
    (value : HasValue y a) (at_most : v ≤ a) :
    ∃ digits place, IsNearest v digits place ∧ HasValue x (digits * 2 ^ place) := by
  cases rounds with
  | zero none nearest =>
    have near := (abs_le.1 nearest.near).2
    rw [Nat.cast_zero, zero_mul, sub_zero] at near
    exact absurd some (not_lt.2 near)
  | value nearest value' => exact ⟨_, _, nearest, value'⟩
  | infinite nearest large infinite =>
    have largest := value.lt_largest
    obtain ⟨m, e, some', -, rfl, canonical, -⟩ := value.exists_canonical
    exact absurd largest (not_lt.2 (large.trans (nearest.le_of_ge canonical at_most)))

end Values

end CurveBoard
