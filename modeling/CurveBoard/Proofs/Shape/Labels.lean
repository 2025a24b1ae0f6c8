import CurveBoard.Proofs.Decimal
import CurveBoard.Proofs.Hundredths
import CurveBoard.Proofs.Rounding
import CurveBoard.Proofs.Shape.Drawn

/-!
# What the labels of ticks say

A label is a number with a fixed count of decimals, without what is idle in it. So it is a plain
numeral in its only form, and it is read as the number that has been rounded. The decimals of a step
are so many that their last place is shorter than the step; so labels of different multiples are
different, though each of them is rounded.
-/
namespace CurveBoard

/-! ### Numerals without anything idle -/

namespace PlainNumeral

/-- A numeral has no zeros before its digits or at the end of its fraction, and zero has no sign. -/
structure IsCanonical (n : PlainNumeral) : Prop where
  noZeroBefore : n.whole.head? = some '0' → n.whole = ['0']
  noZeroBehind : n.fraction.getLast? ≠ some '0'
  noSignedZero : n.negative = true → n.value ≠ 0

/-- The numeral without the zeros at the end of its fraction. -/
def trimmed (n : PlainNumeral) : PlainNumeral where
  negative := n.negative
  whole := n.whole
  fraction := dropTrailingZeros n.fraction
  whole_digits := n.whole_digits
  fraction_digits := n.fraction_digits.dropTrailingZeros
  whole_ne_nil := n.whole_ne_nil

variable (n : PlainNumeral)

private theorem value_trimmed : n.trimmed.value = n.value := by
  obtain ⟨-, k, same⟩ := dropTrailingZeros_spec n.fraction
  have magnitude : decimalValue n.whole (dropTrailingZeros n.fraction) =
      decimalValue n.whole n.fraction := by
    conv_rhs =>
      rw [same, decimalValue_append_zeros n.whole_digits n.fraction_digits.dropTrailingZeros]
  unfold value
  rw [← magnitude]
  rfl

/-- The sign and the digits before the point. -/
def front (n : PlainNumeral) : List Char := (if n.negative then ['-'] else []) ++ n.whole

theorem text_eq : n.text = n.front ++ if n.fraction = [] then [] else '.' :: n.fraction := by
  unfold text unsigned front
  rw [List.append_assoc]

private theorem point_notMem_front : '.' ∉ n.front := by
  unfold front
  rw [List.mem_append, not_or]
  constructor
  · split <;> decide
  · intro member
    cases n.whole_digits _ member

/-- Taken off the end, zeros go no farther than the point. -/
theorem dropWhile_reverse_point (front fraction : List Char) :
    (front ++ '.' :: fraction).reverse.dropWhile (· == '0') =
      (dropTrailingZeros fraction).reverse ++ '.' :: front.reverse := by
  obtain ⟨last, k, same⟩ := dropTrailingZeros_spec fraction
  generalize dropTrailingZeros fraction = kept at last same
  have zeros : ∀ c ∈ List.replicate k '0', (c == '0') = true := by
    intro c member
    rw [List.eq_of_mem_replicate member]
    rfl
  have stop : ∀ c ∈ (kept.reverse ++ '.' :: front.reverse).head?, (c == '0') = false := by
    cases kept using List.reverseRecOn with
    | nil => simp
    | append_singleton before d => simpa using last
  have reversed : (front ++ '.' :: fraction).reverse =
      List.replicate k '0' ++ (kept.reverse ++ '.' :: front.reverse) := by
    rw [same]
    simp
  rw [reversed, dropWhile_append_stop zeros stop]

/-- What is removed from the end of a numeral are the zeros of its fraction, and the point if they
are all of it. -/
theorem withoutIdleZeros_text : withoutIdleZeros n.text = n.trimmed.text := by
  have front_eq : n.trimmed.front = n.front := rfl
  have fraction_eq : n.trimmed.fraction = dropTrailingZeros n.fraction := rfl
  rw [n.text_eq, n.trimmed.text_eq, front_eq, fraction_eq]
  by_cases none : n.fraction = []
  · -- without a point nothing is idle
    have noPoint : ¬n.front.contains '.' := by simpa using n.point_notMem_front
    have nothing : dropTrailingZeros [] = [] := rfl
    rw [none, nothing, if_pos rfl, List.append_nil, withoutIdleZeros, if_neg noPoint]
  · have digits := n.fraction_digits.dropTrailingZeros
    rw [if_neg none, withoutIdleZeros, if_pos (by simp), dropWhile_reverse_point]
    generalize dropTrailingZeros n.fraction = kept at digits
    cases kept using List.reverseRecOn with
    | nil =>
      -- the point goes, and what stands before it is none
      have noPoint : ∀ c ∈ n.front.reverse.head?, (c == '.') = false := by
        intro c first
        have member := List.mem_reverse.1 (List.mem_of_mem_head? first)
        exact beq_false_of_ne fun same => n.point_notMem_front (same ▸ member)
      have point : ∀ c ∈ ['.'], (c == '.') = true := by simp
      have shorter := dropWhile_append_stop point noPoint
      rw [List.singleton_append] at shorter
      rw [List.reverse_nil, List.nil_append, shorter, List.reverse_reverse, if_pos rfl,
        List.append_nil]
    | append_singleton before d =>
      -- a digit is left, and the point before it
      have noPoint : (d == '.') = false := by
        refine beq_false_of_ne ?_
        rintro rfl
        cases digits '.' (by simp)
      rw [if_neg (by simp), List.reverse_append, List.reverse_singleton, List.singleton_append,
        List.cons_append, List.dropWhile_cons_of_neg (by simp [noPoint])]
      simp

theorem text_ne_nil : n.text ≠ [] := by
  obtain ⟨c, rest, unsigned_eq, -⟩ := n.exists_unsigned_eq_cons
  rw [text, unsigned_eq]
  simp

variable {n}

private theorem IsCanonical.text_ne_signedZero (canonical : n.IsCanonical) :
    n.text ≠ "-0".toList := by
  intro same
  have zero : readDecimal? "-0".toList = some 0 := by decide +kernel
  rw [← same, readDecimal?_text] at zero
  cases sign : n.negative with
  | true => exact canonical.noSignedZero sign (Option.some.inj zero)
  | false =>
    obtain ⟨c, rest, unsigned_eq, digit⟩ := n.exists_unsigned_eq_cons
    rw [text, unsigned_eq, sign] at same
    cases same
    cases digit

end PlainNumeral

/-- A text that spells a number and has nothing idle in it: no zero at the end of a fraction, no
point without one, no sign at zero. -/
structure IsCanonicalText (text : List Char) (value : ℚ) : Prop where
  reads : readDecimal? text = some value
  noZeroBehind : '.' ∈ text → text.getLast? ≠ some '0'
  noBarePoint : text.getLast? ≠ some '.'
  noSignedZero : text ≠ "-0".toList
  numeral : ∃ n : PlainNumeral, n.IsCanonical ∧ n.text = text

private theorem PlainNumeral.IsCanonical.isCanonicalText {n : PlainNumeral}
    (canonical : n.IsCanonical) :
    IsCanonicalText n.text n.value := by
  have ends : n.fraction = [] ∧ n.text = n.front ∨ n.fraction ≠ [] ∧
      n.text.getLast? = n.fraction.getLast? := by
    by_cases none : n.fraction = []
    · exact .inl ⟨none, by rw [n.text_eq, if_pos none, List.append_nil]⟩
    · refine .inr ⟨none, ?_⟩
      rw [n.text_eq, if_neg none, List.getLast?_append_of_ne_nil _ (List.cons_ne_nil _ _),
        List.getLast?_cons_of_ne_nil none]
  constructor
  case reads => exact readDecimal?_text n
  case noZeroBehind =>
    intro point
    rcases ends with ⟨-, whole⟩ | ⟨-, last⟩
    · exact absurd (whole ▸ point) n.point_notMem_front
    · rw [last]
      exact canonical.noZeroBehind
  case noBarePoint =>
    intro last
    rcases ends with ⟨-, whole⟩ | ⟨-, same⟩
    · rw [whole] at last
      exact n.point_notMem_front (List.mem_of_getLast? last)
    · rw [same] at last
      cases n.fraction_digits '.' (List.mem_of_getLast? last)
  case noSignedZero => exact canonical.text_ne_signedZero
  case numeral => exact ⟨n, canonical, rfl⟩

/-- The label that is made of a numeral, if zero has no sign in it. -/
theorem tickLabel_text {n : PlainNumeral} (canonical : n.trimmed.IsCanonical) :
    tickLabel (String.ofList n.text) = String.ofList n.trimmed.text := by
  have kept : ¬(decide (n.trimmed.text = "-0".toList) || n.trimmed.text.isEmpty) = true := by
    rw [Bool.or_eq_true, decide_eq_true_eq, List.isEmpty_iff, not_or]
    exact ⟨canonical.text_ne_signedZero, n.trimmed.text_ne_nil⟩
  unfold tickLabel
  rw [String.toList_ofList, n.withoutIdleZeros_text]
  exact congrArg String.ofList (if_neg kept)

/-! ### A fixed count of decimals -/

section Fixed

variable (places units : ℕ)

/-- The digits of a number, with zeros before them if there are fewer than one and the decimals. -/
def paddedDigits (places units : ℕ) : List Char :=
  let digits := Nat.toDigits 10 units
  List.replicate (places + 1 - digits.length) '0' ++ digits

private theorem isDigits_paddedDigits : IsDigits (paddedDigits places units) :=
  isDigits_append.2 ⟨isDigits_replicate _, isDigits_toDigits units⟩

private theorem lt_length_paddedDigits : places < (paddedDigits places units).length := by
  unfold paddedDigits
  rw [List.length_append, List.length_replicate]
  omega

private theorem digitsValue_paddedDigits : digitsValue (paddedDigits places units) = units := by
  unfold paddedDigits
  dsimp only
  rw [digitsValue_zeros_append _ (isDigits_toDigits units), digitsValue_toDigits]

private theorem paddedDigits_zero : paddedDigits places 0 = List.replicate (places + 1) '0' := by
  unfold paddedDigits
  rw [Nat.toDigits_zero]
  exact List.replicate_succ'.symm

/-- A number of units of the last of some decimals, all of them written. -/
def fixedNumeral (negative : Bool) (places units : ℕ) : PlainNumeral where
  negative := negative
  whole := (paddedDigits places units).take ((paddedDigits places units).length - places)
  fraction := (paddedDigits places units).drop ((paddedDigits places units).length - places)
  whole_digits := (isDigits_paddedDigits places units).take _
  fraction_digits := (isDigits_paddedDigits places units).drop _
  whole_ne_nil := by
    have longer := lt_length_paddedDigits places units
    rw [Ne, List.take_eq_nil_iff, not_or, ← List.length_eq_zero_iff]
    omega

variable (negative : Bool)

private theorem length_fraction_fixedNumeral :
    (fixedNumeral negative places units).fraction.length = places := by
  have longer := lt_length_paddedDigits places units
  rw [fixedNumeral, List.length_drop]
  omega

private theorem text_fixedNumeral :
    (fixedNumeral negative places units).text =
      if negative then '-' :: fixedDigits places units else fixedDigits places units := by
  have unsigned_eq : (fixedNumeral negative places units).unsigned = fixedDigits places units := by
    have length := length_fraction_fixedNumeral places units negative
    unfold PlainNumeral.unsigned fixedDigits
    by_cases none : places = 0
    · rw [if_pos (List.length_eq_zero_iff.1 (length.trans none)), List.append_nil, if_pos none]
      rfl
    · rw [if_neg fun nothing =>
        none (length.symm.trans (List.length_eq_zero_iff.2 nothing)), if_neg none]
      rfl
  rw [PlainNumeral.text, unsigned_eq]
  cases negative <;> rfl

private theorem value_fixedNumeral :
    (fixedNumeral negative places units).value =
      if negative then -((units : ℚ) / 10 ^ places) else units / 10 ^ places := by
  have magnitude : decimalValue (fixedNumeral negative places units).whole
      (fixedNumeral negative places units).fraction = units / 10 ^ places := by
    rw [decimalValue, length_fraction_fixedNumeral, fixedNumeral, List.take_append_drop,
      digitsValue_paddedDigits]
  rw [PlainNumeral.value, magnitude]
  rfl

private theorem noZeroBefore_fixedNumeral
    (zero : (fixedNumeral negative places units).whole.head? = some '0') :
    (fixedNumeral negative places units).whole = ['0'] := by
  have whole_eq : (fixedNumeral negative places units).whole =
      (paddedDigits places units).take ((paddedDigits places units).length - places) := rfl
  rw [whole_eq] at zero ⊢
  have longer := lt_length_paddedDigits places units
  rcases Nat.lt_or_ge places (Nat.toDigits 10 units).length with enough | short
  · -- no zeros are put before the digits, so they are those of zero
    have padded : paddedDigits places units = Nat.toDigits 10 units := by
      rw [paddedDigits, Nat.sub_eq_zero_of_le enough, List.replicate_zero, List.nil_append]
    rw [padded] at longer zero ⊢
    rw [List.head?_take, if_neg (by omega)] at zero
    obtain rfl : units = 0 := by
      by_contra nonzero
      exact head?_toDigits_ne_zero (Nat.pos_of_ne_zero nonzero) zero
    rw [Nat.toDigits_zero, List.length_singleton] at longer ⊢
    obtain rfl : places = 0 := by omega
    rfl
  · -- one of the zeros stands before the decimals
    obtain ⟨k, count⟩ : ∃ k, places + 1 - (Nat.toDigits 10 units).length = k + 1 :=
      ⟨_, (Nat.sub_add_cancel (by omega)).symm⟩
    have padded : paddedDigits places units =
        '0' :: (List.replicate k '0' ++ Nat.toDigits 10 units) := by
      rw [paddedDigits, count, List.replicate_succ, List.cons_append]
    have one : (paddedDigits places units).length - places = 1 := by
      rw [padded, List.length_cons, List.length_append, List.length_replicate]
      omega
    rw [one, padded]
    rfl

/-- The label of a number of units, which is never signed for zero. -/
def labelNumeral : PlainNumeral := (fixedNumeral (negative && units != 0) places units).trimmed

private theorem value_labelNumeral :
    (labelNumeral places units negative).value =
      if negative then -((units : ℚ) / 10 ^ places) else units / 10 ^ places := by
  rw [labelNumeral, PlainNumeral.value_trimmed, value_fixedNumeral]
  by_cases zero : units = 0
  · simp [zero]
  · simp [zero]

private theorem isCanonical_labelNumeral : (labelNumeral places units negative).IsCanonical where
  noZeroBefore := noZeroBefore_fixedNumeral places units (negative && units != 0)
  noZeroBehind := (dropTrailingZeros_spec _).1
  noSignedZero := by
    intro signed
    have sign_eq : (labelNumeral places units negative).negative = (negative && units != 0) := rfl
    rw [sign_eq, Bool.and_eq_true, bne_iff_ne] at signed
    rw [value_labelNumeral, if_pos signed.1, neg_ne_zero]
    exact div_ne_zero (Nat.cast_ne_zero.2 signed.2) (by positivity)

private theorem dropTrailingZeros_replicate (n : ℕ) :
    dropTrailingZeros (List.replicate n '0') = [] := by
  simp [dropTrailingZeros]

private theorem text_trimmed_zero :
    (fixedNumeral negative places 0).trimmed.text = if negative then "-0".toList
      else "0".toList := by
  have whole_eq : (fixedNumeral negative places 0).whole = ['0'] := by
    simp [fixedNumeral, paddedDigits_zero]
  have fraction_eq : (fixedNumeral negative places 0).trimmed.fraction = [] := by
    have zeros : (fixedNumeral negative places 0).fraction = List.replicate places '0' := by
      simp [fixedNumeral, paddedDigits_zero]
    exact (congrArg dropTrailingZeros zeros).trans (dropTrailingZeros_replicate places)
  have front_eq : (fixedNumeral negative places 0).trimmed.front =
      (if negative then ['-'] else []) ++ ['0'] :=
    congrArg ((if negative then ['-'] else []) ++ ·) whole_eq
  rw [PlainNumeral.text_eq, fraction_eq, front_eq]
  cases negative <;> rfl

private theorem tickLabel_fixedDigits :
    tickLabel (String.ofList
        (if negative then '-' :: fixedDigits places units else fixedDigits places units)) =
      String.ofList (labelNumeral places units negative).text := by
  by_cases signedZero : negative = true ∧ units = 0
  · -- the sign goes with the zeros
    obtain ⟨rfl, rfl⟩ := signedZero
    have unsigned : (labelNumeral places 0 true).text = "0".toList := text_trimmed_zero places false
    rw [← text_fixedNumeral, tickLabel, String.toList_ofList, PlainNumeral.withoutIdleZeros_text,
      text_trimmed_zero, unsigned]
    rfl
  · have sign : (negative && units != 0) = negative := by
      cases negative with
      | false => rfl
      | true => simpa using signedZero
    have canonical := isCanonical_labelNumeral places units negative
    rw [labelNumeral, sign] at canonical ⊢
    rw [← text_fixedNumeral, tickLabel_text canonical]

end Fixed

example : tickLabel "-0.00" = "0" ∧ tickLabel "1.50" = "1.5" ∧ tickLabel "120" = "120" := by
  decide

/-! ### Labels -/

open Scalar Extended

section Labels

variable {x step : ℝ} (d : ℕ)

/-- The number of units of the last decimal that is nearest to the size of a number. -/
noncomputable def labelUnits (x : ℝ) (d : ℕ) : ℕ :=
  (nearestInteger (|x| * (tenPower d : ℕ))).toNat

private theorem labelUnits_eq (x : ℝ) :
    labelUnits x d = (nearestInteger (|x| * 10 ^ d)).toNat := by
  have power : ((tenPower d : ℕ) : ℝ) = 10 ^ d := Nat.cast_pow 10 d
  rw [labelUnits, power]

private theorem tickText_finite (x : ℝ) :
    tickText (finite x) d =
      String.ofList (labelNumeral d (labelUnits x d) (decide (x < 0))).text := by
  rw [← tickLabel_fixedDigits, labelUnits_eq]
  simp only [decide_eq_true_eq]
  rfl

private theorem value_label (x : ℝ) :
    (labelNumeral d (labelUnits x d) (decide (x < 0))).value =
      nearestInteger (x * 10 ^ d) / 10 ^ d := by
  have units : ((labelUnits x d : ℕ) : ℤ) = nearestInteger (|x| * 10 ^ d) := by
    rw [labelUnits_eq]
    exact Int.toNat_of_nonneg (nearestInteger_nonneg (by positivity))
  have units' : ((labelUnits x d : ℕ) : ℚ) = nearestInteger (|x| * 10 ^ d) := by
    exact_mod_cast congrArg (Int.cast (R := ℚ)) units
  rw [value_labelNumeral, units']
  by_cases negative : x < 0
  · rw [if_pos (decide_eq_true negative), abs_of_neg negative, neg_mul, nearestInteger_neg]
    push_cast
    ring
  · rw [if_neg (by simpa using negative), abs_of_nonneg (not_lt.1 negative)]

private theorem isCanonicalText_tickText (x : ℝ) :
    IsCanonicalText (tickText (finite x) d).toList (nearestInteger (x * 10 ^ d) / 10 ^ d) := by
  rw [tickText_finite, String.toList_ofList, ← value_label]
  exact (isCanonical_labelNumeral _ _ _).isCanonicalText

/-- A label is at most half a unit of its last decimal away from its number. -/
theorem abs_label_sub_le (x : ℝ) :
    |(nearestInteger (x * 10 ^ d) : ℝ) / 10 ^ d - x| ≤ 1 / 10 ^ d / 2 := by
  have unit_pos : (0 : ℝ) < 10 ^ d := by positivity
  rw [abs_sub_comm, abs_sub_div unit_pos, div_le_iff₀ unit_pos]
  refine (abs_sub_nearestInteger_le (x * 10 ^ d)).trans_eq ?_
  field_simp

/-- The last decimal of a step is shorter than the step. -/
theorem unit_lt_step (positive : 0 < step) (decided : tickDecimals (finite step) = .ok d) :
    1 / 10 ^ d < step := by
  rw [tickDecimals_finite positive] at decided
  cases decided
  have whole : 1.1 - Real.logb 10 step < ⌊1.1 - Real.logb 10 step⌋ + 1 := Int.lt_floor_add_one _
  have enough : ((⌊1.1 - Real.logb 10 step⌋ + 2 : ℤ) : ℝ) ≤
      ((⌊1.1 - Real.logb 10 step⌋ + 2).toNat : ℤ) :=
    Int.cast_le.2 (Int.self_le_toNat _)
  have exponent : -Real.logb 10 step < ((⌊1.1 - Real.logb 10 step⌋ + 2).toNat : ℝ) := by
    have tenth : (1 : ℝ) ≤ 1.1 := by norm_num
    push_cast at enough
    linarith
  have power : (10 : ℝ) ^ (-Real.logb 10 step) = 1 / step := by
    rw [Real.rpow_neg (by norm_num), Real.rpow_logb (by norm_num) (by norm_num) positive, one_div]
  have larger := Real.rpow_lt_rpow_of_exponent_lt (by norm_num : (1 : ℝ) < 10) exponent
  rw [power, Real.rpow_natCast] at larger
  exact (one_div_lt positive (by positivity)).1 larger

/-- Labels of different multiples of a step are different. -/
theorem tickText_ne (positive : 0 < step) (decided : tickDecimals (finite step) = .ok d) {j k : ℤ}
    (different : j ≠ k) :
    tickText (finite (j * step)) d ≠ tickText (finite (k * step)) d := by
  intro same
  have unit_lt := unit_lt_step d positive decided
  -- the same text is read as the same number, which is near to both
  have value_eq : (nearestInteger (j * step * 10 ^ d) : ℚ) / 10 ^ d =
      nearestInteger (k * step * 10 ^ d) / 10 ^ d := by
    have reads := (isCanonicalText_tickText d (j * step)).reads
    rw [same, (isCanonicalText_tickText d (k * step)).reads] at reads
    exact (Option.some.inj reads).symm
  have value_eq' : (nearestInteger (j * step * 10 ^ d) : ℝ) / 10 ^ d =
      nearestInteger (k * step * 10 ^ d) / 10 ^ d := by
    exact_mod_cast congrArg (Rat.cast (K := ℝ)) value_eq
  have near := abs_label_sub_le d (j * step)
  have near' := abs_label_sub_le d (k * step)
  rw [value_eq'] at near
  have apart : |((j - k : ℤ) : ℝ)| * step ≤ 1 / 10 ^ d := by
    rw [← abs_of_pos positive, ← abs_mul]
    push_cast
    rw [abs_le] at near near' ⊢
    constructor <;> linarith
  have one_le : (1 : ℝ) ≤ |((j - k : ℤ) : ℝ)| := by
    have nonzero : (1 : ℤ) ≤ |j - k| := Int.one_le_abs (sub_ne_zero.2 different)
    exact_mod_cast nonzero
  have step_le : step ≤ |((j - k : ℤ) : ℝ)| * step := le_mul_of_one_le_left positive.le one_le
  linarith

private theorem Binary.toRat_neg_iff {b : Binary} (nonzero : 0 < b.numerator) :
    (b.toRat : ℝ) < 0 ↔ b.negative = true := by
  have positive : (0 : ℚ) < b.numerator / b.denominator :=
    div_pos (Nat.cast_pos.2 nonzero) (Nat.cast_pos.2 b.denominator_pos)
  rw [b.toRat_eq, Rat.cast_lt_zero]
  split
  next negative => exact iff_of_true (neg_lt_zero.2 positive) negative
  next negative => exact iff_of_false positive.not_gt negative

/-- A double has the label of the number that it is. -/
theorem tickText_of_ofFloat? {x : Float} {b : Binary} (found : Binary.ofFloat? x = some b) :
    tickText x d = tickText (finite (b.toRat : ℝ)) d := by
  have units : labelUnits b.toRat d = roundedQuotient (b.numerator * tenPower d) b.denominator := by
    have scaled : (b.numerator : ℝ) / b.denominator * (tenPower d : ℕ) =
        (b.numerator * tenPower d : ℕ) / b.denominator := by
      push_cast
      ring
    rw [labelUnits, ← Rat.cast_abs, b.abs_toRat, Rat.cast_div, Rat.cast_natCast,
      Rat.cast_natCast, scaled, nearestInteger_div _ b.denominator_pos]
    rfl
  have fixed : Geometry.fixedText d x = String.ofList (if b.negative then
      '-' :: fixedDigits d (labelUnits b.toRat d) else fixedDigits d (labelUnits b.toRat d)) := by
    have written : Geometry.fixedText d x = fixedText d x := rfl
    rw [units, written, fixedText, signedText, found]
  have sign : (b.negative && labelUnits b.toRat d != 0) =
      (decide ((b.toRat : ℝ) < 0) && labelUnits b.toRat d != 0) := by
    rcases Nat.eq_zero_or_pos b.numerator with zero | nonzero
    · -- a zero with a sign has a label without one
      have none : labelUnits b.toRat d = 0 := by
        rw [units, zero, Nat.zero_mul]
        simp [roundedQuotient]
      simp [none]
    · simp only [Binary.toRat_neg_iff nonzero, Bool.decide_eq_true]
  rw [tickText_finite, tickText, fixed, tickLabel_fixedDigits, labelNumeral, labelNumeral, sign]

end Labels

/-- A label is its number rounded to decimals, half to even, with nothing idle in its text; and so
is that of a double. The labels of different multiples of a step are different texts, each of which
is at most half a unit of the last decimal away from its multiple. -/
theorem tickText_faithful {step : ℝ} (positive : 0 < step) :
    (∀ (x : ℝ) (d : ℕ), IsCanonicalText (tickText (finite x) d).toList
      (nearestInteger (x * 10 ^ d) / 10 ^ d)) ∧
    (∀ (x : Float) (b : Binary) (d : ℕ), Binary.ofFloat? x = some b →
      tickText x d = tickText (finite (b.toRat : ℝ)) d) ∧
    ∃ d, tickDecimals (finite step) = .ok d ∧ ∀ j : ℤ,
      (∀ k : ℤ, j ≠ k → tickText (finite (j * step)) d ≠
        tickText (finite (k * step)) d) ∧
      ∃ value : ℚ, readDecimal? (tickText (finite (j * step)) d).toList = some value ∧
        |(value : ℝ) - j * step| ≤ 1 / 10 ^ d / 2 := by
  refine ⟨fun x d => isCanonicalText_tickText d x, fun x b d found =>
    tickText_of_ofFloat? d found, _, tickDecimals_finite positive,
    fun j => ⟨fun k different => ?_, _, (isCanonicalText_tickText _ _).reads, ?_⟩⟩
  · exact tickText_ne _ positive (tickDecimals_finite positive) different
  · push_cast
    exact abs_label_sub_le _ _

/-- The labels of quarters. -/
theorem tickText_faithful_quarter :
    ∃ d, tickDecimals (finite (1 / 4 : ℝ)) = .ok d ∧
      tickText (finite ((3 : ℤ) * (1 / 4 : ℝ))) d ≠
        tickText (finite ((-3 : ℤ) * (1 / 4 : ℝ))) d := by
  obtain ⟨-, -, d, decided, faithful⟩ := tickText_faithful (by norm_num : (0 : ℝ) < 1 / 4)
  exact ⟨d, decided, (faithful 3).1 (-3) (by decide)⟩

end CurveBoard
