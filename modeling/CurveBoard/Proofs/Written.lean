import CurveBoard.Proofs.Decimal
import CurveBoard.Proofs.Significant

/-!
# Decimals that are written and read

A decimal is written as a plain numeral, perhaps with an exponent behind it. Zeros that are put
before and behind its digits, a point between them and the exponent together spell the number that
the decimal is, in whatever style; and reading takes the parts of the text for what they have been.
So a double that is written with a count of significant digits is read as what is left of it when so
many digits are kept.
-/
namespace CurveBoard

/-! ### The characters of numbers -/

/-- The characters that finite doubles are written with. -/
def isWritten (c : Char) : Bool := c.isDigit || ['+', '-', '.', 'e'].contains c

section Characters

variable {c : Char} {text : List Char}

private theorem isWritten_cases (written : isWritten c = true) :
    c.isDigit = true ∨ c = '+' ∨ c = '-' ∨ c = '.' ∨ c = 'e' := by
  simpa [isWritten] using written

private theorem isWritten_digit (digit : c.isDigit = true) : isWritten c = true := by
  rw [isWritten, digit, Bool.true_or]

theorem IsDigits.isWritten (digits : IsDigits text) : ∀ c ∈ text, isWritten c = true :=
  fun c member => isWritten_digit (digits c member)

private theorem asciiForm_digit (digit : c.isDigit = true) : asciiForm c = c := by
  obtain ⟨above, -⟩ := Char.isDigit_iff_toNat.1 digit
  have at_least : 48 ≤ c.toNat := above
  rw [asciiForm, digitValue?_of_isDigit digit]
  have code : 0x30 + (c.toNat - '0'.toNat) = c.toNat := Nat.add_sub_of_le at_least
  dsimp only
  rw [code, Char.ofNat_toNat]

private theorem asciiForm_written (written : isWritten c = true) : asciiForm c = c := by
  rcases isWritten_cases written with digit | rfl | rfl | rfl | rfl
  · exact asciiForm_digit digit
  all_goals exact (asciiForm_eq_iff (by decide) (by decide)).2 rfl

private theorem isBlank_written (written : isWritten c = true) : isBlank c = false := by
  rcases isWritten_cases written with digit | rfl | rfl | rfl | rfl
  · exact isBlank_digit (isDecimalDigit_of_isDigit digit)
  all_goals decide

/-- Nothing is taken off a number before it is read, and nothing is left out of it. -/
theorem ungrouped?_bareNumeral_written (written : ∀ c ∈ text, isWritten c = true) :
    ungrouped? false (bareNumeral text) = some text := by
  have bare : bareNumeral text = text := by
    have ascii : text.map asciiForm = text :=
      (List.map_congr_left fun c member => asciiForm_written (written c member)).trans
        (List.map_id text)
    have both :
        ((([] ++ (text ++ [])).dropWhile isAsciiBlank).reverse.dropWhile isAsciiBlank).reverse =
          text := by
      refine dropWhile_both (by simp) (by simp) fun c member => Bool.eq_false_iff.2 fun blank => ?_
      exact Bool.eq_false_iff.1 (isBlank_written (written c member)) (isBlank_of_isAsciiBlank blank)
    rw [List.nil_append, List.append_nil] at both
    rw [bareNumeral, ascii, both]
  rw [bare]
  refine ungrouped?_eq_self false fun member => ?_
  cases written '_' member

end Characters

/-! ### Spelled numbers -/

/-- A text without a sign spells a number as a plain numeral, or as one with an exponent behind
it. -/
inductive Spells : List Char → ℚ → Prop
  | plain (n : PlainNumeral) : Spells n.unsigned (decimalValue n.whole n.fraction)
  | scientific (n : PlainNumeral) (e : ℤ) :
      Spells (n.unsigned ++ exponentText e) (decimalValue n.whole n.fraction * 10 ^ e)

/-- The digits of an exponent, of which there are at least two. -/
def exponentDigits (e : ℤ) : List Char :=
  List.replicate (2 - (Nat.toDigits 10 e.natAbs).length) '0' ++ Nat.toDigits 10 e.natAbs

private theorem exponentText_eq (e : ℤ) :
    exponentText e = 'e' :: (if e < 0 then '-' else '+') :: exponentDigits e := rfl

private theorem isDigits_exponentDigits (e : ℤ) : IsDigits (exponentDigits e) :=
  isDigits_append.2 ⟨isDigits_replicate _, isDigits_toDigits _⟩

private theorem digitsValue_exponentDigits (e : ℤ) :
    digitsValue (exponentDigits e) = e.natAbs := by
  rw [exponentDigits, digitsValue_zeros_append _ (isDigits_toDigits _), digitsValue_toDigits]

private theorem exponentDigits_ne_nil (e : ℤ) : exponentDigits e ≠ [] :=
  List.append_ne_nil_of_right_ne_nil _ Nat.toDigits_ne_nil

/-- An exponent is read as it has been written. -/
theorem readExponent?_exponentText (e : ℤ) : readExponent? (exponentText e) = some e := by
  have sign : splitSign ((if e < 0 then '-' else '+') :: exponentDigits e) =
      (decide (e < 0), exponentDigits e) := by
    by_cases negative : e < 0
    · simp [splitSign, negative]
    · simp [splitSign, negative]
  have valid : (!(exponentDigits e).isEmpty && (exponentDigits e).all Char.isDigit) = true := by
    rw [Bool.and_eq_true, List.all_eq_true]
    exact ⟨by simp [exponentDigits_ne_nil e], isDigits_exponentDigits e⟩
  rw [exponentText_eq, readExponent?, if_pos (by decide), sign]
  dsimp only
  rw [if_pos valid, digitsValue_exponentDigits]
  simp only [decide_eq_true_eq, Option.some.injEq]
  omega

private theorem isWritten_exponentText (e : ℤ) :
    ∀ c ∈ exponentText e, isWritten c = true := by
  have sign : isWritten (if e < 0 then '-' else '+') = true := by
    split <;> decide
  rw [exponentText_eq]
  exact List.forall_mem_cons.2 ⟨by decide,
    List.forall_mem_cons.2 ⟨sign, (isDigits_exponentDigits e).isWritten⟩⟩

namespace PlainNumeral

variable (n : PlainNumeral)

private theorem isWritten_unsigned : ∀ c ∈ n.unsigned, isWritten c = true := by
  unfold unsigned
  refine List.forall_mem_append.2 ⟨n.whole_digits.isWritten, ?_⟩
  split
  · exact List.forall_mem_nil _
  · exact List.forall_mem_cons.2 ⟨by decide, n.fraction_digits.isWritten⟩

end PlainNumeral

section Reading

variable {text : List Char} {x : ℚ} {c : ℕ} {k : ℤ}

theorem Spells.isWritten (spells : Spells text x) : ∀ c ∈ text, isWritten c = true := by
  cases spells with
  | plain n => exact n.isWritten_unsigned
  | scientific n e =>
    exact List.forall_mem_append.2 ⟨n.isWritten_unsigned, isWritten_exponentText e⟩

/-- A numeral and what its exponent is read from. -/
theorem Spells.exists_numeral (spells : Spells text x) :
    ∃ (n : PlainNumeral) (after : List Char) (e : ℤ), text = n.unsigned ++ after ∧
      readExponent? after = some e ∧ (∀ c ∈ after.head?, c.isDigit = false ∧ c ≠ '.') ∧
        x = decimalValue n.whole n.fraction * 10 ^ e := by
  cases spells with
  | plain n =>
    exact ⟨n, [], 0, (List.append_nil _).symm, rfl, nofun, by rw [zpow_zero, mul_one]⟩
  | scientific n e =>
    refine ⟨n, exponentText e, e, rfl, readExponent?_exponentText e, fun c first => ?_, rfl⟩
    cases first
    decide

private theorem readMagnitude?_of_spells (spells : Spells text (c * 10 ^ k)) (negative : Bool) :
    readMagnitude? negative text = some (floatOfDecimal negative c k) := by
  obtain ⟨n, after, e, rfl, read, stop, value⟩ := spells.exists_numeral
  have some : (n.whole.isEmpty && n.fraction.isEmpty) = false := by
    simp [n.whole_ne_nil]
  have same : ((digitsValue (n.whole ++ n.fraction) : ℕ) : ℚ) * 10 ^ (e - n.fraction.length) =
      c * 10 ^ k := by
    rw [value, decimalValue, zpow_sub₀ (by norm_num), zpow_natCast]
    ring
  unfold readMagnitude?
  rw [n.takeWhile_unsigned stop, n.splitFraction_unsigned stop]
  dsimp only
  rw [if_neg (by rw [some]; exact Bool.false_ne_true), read, Option.map_some,
    floatOfDecimal_congr negative same]

private theorem Spells.isWritten_signed (spells : Spells text x) (negative : Bool) :
    ∀ c ∈ if negative then '-' :: text else text, CurveBoard.isWritten c = true := by
  split
  · exact List.forall_mem_cons.2 ⟨by decide, spells.isWritten⟩
  · exact spells.isWritten

/-- What spells a decimal is read as the double nearest to it. -/
theorem readFloat?_of_spells (spells : Spells text (c * 10 ^ k)) (negative : Bool) :
    readFloat? (if negative then '-' :: text else text) = some (floatOfDecimal negative c k) := by
  have sign : splitSign (if negative then '-' :: text else text) = (negative, text) := by
    obtain ⟨n, after, -, rfl, -⟩ := spells.exists_numeral
    have split := PlainNumeral.splitSign_text { n with negative := negative } after
    cases negative with
    | false => exact split
    | true => rfl
  rw [readFloat?, ungrouped?_bareNumeral_written (spells.isWritten_signed negative),
    Option.bind_some, sign]
  dsimp only
  rw [readMagnitude?_of_spells spells negative]
  rfl

end Reading

/-! ### How decimals are written -/

section Writing

variable {digits : List Char}

/-- The digits without the zeros at their end, and where the first of them stands, say what decimal
it is. -/
theorem leadingForm_spec (d : Decimal) :
    IsDigits d.leadingForm.1 ∧ d.leadingForm.1 ≠ [] ∧
      (digitsValue d.leadingForm.1 : ℚ) * 10 ^ (d.leadingForm.2 + 1 - d.leadingForm.1.length) =
        d.toRat := by
  by_cases zero : d.coefficient = 0
  · have form : d.leadingForm = (['0'], 0) := by rw [Decimal.leadingForm, if_pos zero]
    rw [form, Decimal.toRat, zero]
    have value : digitsValue ['0'] = 0 := digitsValue_replicate 1
    exact ⟨isDigits_replicate 1, List.cons_ne_nil _ _,
      by rw [value, Nat.cast_zero, zero_mul, zero_mul]⟩
  · obtain ⟨-, n, whole⟩ := dropTrailingZeros_spec (Nat.toDigits 10 d.coefficient)
    have form : d.leadingForm = (dropTrailingZeros (Nat.toDigits 10 d.coefficient),
        d.exponent + (Nat.toDigits 10 d.coefficient).length - 1) := by
      rw [Decimal.leadingForm, if_neg zero]
    have value := digitsValue_toDigits d.coefficient
    have all_digits := (isDigits_toDigits d.coefficient).dropTrailingZeros
    rw [form, Decimal.toRat]
    dsimp only
    generalize dropTrailingZeros (Nat.toDigits 10 d.coefficient) = digits at *
    -- the zeros left out are a power of ten, which the place of the first digit makes up for
    rw [whole, digitsValue_append all_digits (isDigits_replicate n), digitsValue_replicate,
      Nat.add_zero, List.length_replicate] at value
    refine ⟨all_digits, ?_, ?_⟩
    · rintro rfl
      exact zero (value.symm.trans (Nat.mul_zero _))
    · have place : d.exponent + (Nat.toDigits 10 d.coefficient).length - 1 + 1 - digits.length =
          n + d.exponent := by
        rw [whole, List.length_append, List.length_replicate]
        push_cast
        ring
      rw [place, zpow_add₀ (by norm_num), zpow_natCast, ← value]
      push_cast
      ring

private theorem spells_parts {whole fraction : List Char} (whole_digits : IsDigits whole)
    (fraction_digits : IsDigits fraction) (some : whole ≠ []) :
    Spells (whole ++ if fraction = [] then [] else '.' :: fraction) (decimalValue whole fraction) :=
  .plain ⟨false, whole, fraction, whole_digits, fraction_digits, some⟩

/-- Without an exponent zeros lead to the point, from before the digits or from behind them. -/
theorem spells_positionalText (all_digits : IsDigits digits) (some : digits ≠ [])
    (leading : ℤ) :
    Spells (positionalText false digits leading)
      (digitsValue digits * 10 ^ (leading + 1 - digits.length)) := by
  unfold positionalText
  split
  next small =>
    -- the point comes first, with zeros behind it
    obtain ⟨n, count⟩ : ∃ n, (-leading - 1).toNat = n := ⟨_, rfl⟩
    have spells := spells_parts (isDigits_replicate 1)
      (isDigits_append.2 ⟨isDigits_replicate n, all_digits⟩) (List.cons_ne_nil _ _)
    have place : leading + 1 - digits.length = -((n + digits.length : ℕ) : ℤ) := by
      push_cast
      omega
    rw [decimalValue_zeros_append all_digits 1 n,
      if_neg (List.append_ne_nil_of_right_ne_nil _ some)] at spells
    rw [place, count, List.append_assoc]
    exact spells
  next large =>
    obtain ⟨places, rfl⟩ : ∃ places : ℕ, leading = places := ⟨leading.toNat, by omega⟩
    dsimp only
    rw [Int.toNat_natCast]
    split
    next whole =>
      -- the digits do not reach the point
      have enough : digits.length ≤ places + 1 := by
        simpa using whole
      have spells := spells_parts (isDigits_append.2 ⟨all_digits,
        isDigits_replicate (places + 1 - digits.length)⟩)
        (List.forall_mem_nil _) (List.append_ne_nil_of_left_ne_nil some _)
      have place : (places : ℤ) + 1 - digits.length =
          ((places + 1 - digits.length : ℕ) : ℤ) := by omega
      rw [decimalValue_append_whole_zeros all_digits, if_pos rfl] at spells
      rw [place, List.take_of_length_le enough]
      exact spells
    next fraction =>
      -- the point stands between them
      have beyond : places + 1 < digits.length := by
        simpa using fraction
      have spells := spells_parts (all_digits.take (places + 1)) (all_digits.drop (places + 1))
        (by rw [Ne, List.take_eq_nil_iff, not_or]; exact ⟨Nat.succ_ne_zero _, some⟩)
      have place : (places : ℤ) + 1 - digits.length =
          -((digits.length - (places + 1) : ℕ) : ℤ) := by omega
      rw [decimalValue_take_drop, if_neg (by simpa using fraction)] at spells
      rw [place, Nat.sub_eq_zero_of_le beyond.le, List.replicate_zero, List.append_nil]
      exact spells

/-- The first digit stands before the point, the others behind it. -/
theorem spells_scientificText (all_digits : IsDigits digits) (some : digits ≠ [])
    (leading : ℤ) :
    Spells (scientificText digits leading)
      (digitsValue digits * 10 ^ (leading + 1 - digits.length)) := by
  obtain ⟨first, others, rfl⟩ := List.exists_cons_of_ne_nil some
  have value : decimalValue [first] others * 10 ^ leading =
      digitsValue (first :: others) * 10 ^ (leading + 1 - (first :: others).length) := by
    have place : leading + 1 - ((first :: others).length : ℕ) = leading - others.length := by
      rw [List.length_cons]
      push_cast
      ring
    rw [place, zpow_sub₀ (by norm_num), zpow_natCast, decimalValue, List.singleton_append]
    ring
  rw [← value]
  have first_digit : IsDigits [first] :=
    List.forall_mem_singleton.2 (all_digits first List.mem_cons_self)
  have other_digits : IsDigits others :=
    fun c member => all_digits c (List.mem_cons_of_mem first member)
  have spells :=
    Spells.scientific
      ⟨false, [first], others, first_digit, other_digits, List.cons_ne_nil _ _⟩ leading
  cases others with
  | nil => exact spells
  | cons second others => exact spells

private theorem spells_write {style : NumeralStyle} (plain : style.pointed = false) (d : Decimal) :
    Spells (style.write d) d.toRat := by
  obtain ⟨all_digits, some, value⟩ := leadingForm_spec d
  unfold NumeralStyle.write
  dsimp only
  rw [← value]
  split
  · rw [plain]
    exact spells_positionalText all_digits some _
  · exact spells_scientificText all_digits some _

end Writing

/-! ### Doubles with a count of significant digits -/

section Doubles

variable {count : ℕ} {x : Float} {b : Binary}

/-- A finite double that is written with a count of significant digits. -/
theorem exists_generalText (count : ℕ) (found : Binary.ofFloat? x = some b) :
    ∃ text, (generalText count x).toList = (if b.negative then '-' :: text else text) ∧
      Spells text (significantDecimal count b.numerator b.denominator).toRat := by
  have text_eq : (generalText count x).toList =
      if b.negative then '-' :: (if b.mantissa = 0 then ['0']
        else (NumeralStyle.general count).write
          (significantDecimal count b.numerator b.denominator))
      else if b.mantissa = 0 then ['0']
        else (NumeralStyle.general count).write
          (significantDecimal count b.numerator b.denominator) := by
    rw [generalText, signedText, found]
    exact String.toList_ofList
  refine ⟨_, text_eq, ?_⟩
  split
  next zero =>
    have nothing : (significantDecimal count b.numerator b.denominator).toRat =
        decimalValue (List.replicate 1 '0') [] := by
      rw [Binary.numerator, zero, Nat.zero_mul, toRat_significantDecimal_zero, decimalValue,
        List.append_nil, digitsValue_replicate, Nat.cast_zero, zero_div]
    rw [nothing]
    exact spells_parts (isDigits_replicate 1) (List.forall_mem_nil _) (List.cons_ne_nil _ _)
  next nonzero => exact spells_write rfl _

theorem readFloat?_generalText (found : Binary.ofFloat? x = some b) :
    readFloat? (generalText count x).toList = some (significantFloat count x) := by
  obtain ⟨text, written, spells⟩ := exists_generalText count found
  rw [written, readFloat?_of_spells spells, significantFloat_of_ofFloat? found]

theorem isWritten_generalText (found : Binary.ofFloat? x = some b) :
    ∀ c ∈ (generalText count x).toList, isWritten c = true := by
  obtain ⟨text, written, spells⟩ := exists_generalText count found
  rw [written]
  exact spells.isWritten_signed b.negative

end Doubles

end CurveBoard
