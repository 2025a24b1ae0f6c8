import CurveBoard.Proofs.Reading

/-!
# Plain numerals

A plain numeral has digits, perhaps a point with more digits, and perhaps a minus before all of
that. What it spells is exactly a decimal fraction, and how it falls into its parts does not depend
on what comes behind it. Zeros at the end of a fraction change nothing.
-/
namespace CurveBoard

/-! ### Digits -/

/-- A text of digits only. -/
def IsDigits (text : List Char) : Prop := ∀ c ∈ text, c.isDigit = true

section Digits

variable {text left right : List Char}

theorem isDigits_append : IsDigits (left ++ right) ↔ IsDigits left ∧ IsDigits right :=
  List.forall_mem_append

theorem isDigits_replicate (n : ℕ) : IsDigits (List.replicate n '0') := by
  intro c member
  rw [List.eq_of_mem_replicate member]
  decide

theorem isDigits_toDigits (n : ℕ) : IsDigits (Nat.toDigits 10 n) :=
  fun _ member => Nat.isDigit_of_mem_toDigits (by decide) (by decide) member

theorem IsDigits.take (digits : IsDigits text) (n : ℕ) : IsDigits (text.take n) :=
  fun c member => digits c (List.mem_of_mem_take member)

theorem IsDigits.drop (digits : IsDigits text) (n : ℕ) : IsDigits (text.drop n) :=
  fun c member => digits c (List.mem_of_mem_drop member)

theorem digitValue?_of_isDigit {c : Char} (digit : c.isDigit = true) :
    digitValue? c = some (c.toNat - '0'.toNat) := by
  obtain ⟨above, below⟩ := Char.isDigit_iff_toNat.1 digit
  have at_least : 48 ≤ c.toNat := above
  have at_most : c.toNat ≤ 57 := below
  have first : digitZeros.find? (fun first => first ≤ c.toNat && c.toNat < first + 10) =
      some 0x30 := by
    refine List.find?_cons_of_pos ?_
    simp only [Bool.and_eq_true, decide_eq_true_eq]
    omega
  rw [digitValue?, first]
  rfl

private theorem digitsValue_eq (digits : IsDigits text) :
    digitsValue text = Nat.ofDigitChars 10 text 0 := by
  rw [Nat.ofDigitChars_eq_foldl]
  refine List.foldl_ext _ _ _ fun value c member => ?_
  rw [digitValue?_of_isDigit (digits c member), Option.getD_some]

theorem digitsValue_append (left_digits : IsDigits left) (right_digits : IsDigits right) :
    digitsValue (left ++ right) = 10 ^ right.length * digitsValue left + digitsValue right := by
  rw [digitsValue_eq (isDigits_append.2 ⟨left_digits, right_digits⟩), Nat.ofDigitChars_append,
    Nat.ofDigitChars_eq_ofDigitChars_zero, ← digitsValue_eq left_digits,
    ← digitsValue_eq right_digits]

theorem digitsValue_replicate (n : ℕ) : digitsValue (List.replicate n '0') = 0 := by
  rw [digitsValue_eq (isDigits_replicate n), Nat.ofDigitChars_replicate_zero, Nat.mul_zero]

theorem digitsValue_zeros_append (n : ℕ) (digits : IsDigits text) :
    digitsValue (List.replicate n '0' ++ text) = digitsValue text := by
  rw [digitsValue_append (isDigits_replicate n) digits, digitsValue_replicate, Nat.mul_zero,
    Nat.zero_add]

@[simp] theorem digitsValue_toDigits (n : ℕ) : digitsValue (Nat.toDigits 10 n) = n := by
  rw [digitsValue_eq (isDigits_toDigits n), Nat.ofDigitChars_ten_toDigits]

/-- The first digit of a number is not zero, unless it is the only one. -/
theorem head?_toDigits_ne_zero {n : ℕ} (positive : 0 < n) :
    (Nat.toDigits 10 n).head? ≠ some '0' := by
  induction n using Nat.strong_induction_on with
  | _ n ih =>
    rw [Nat.toDigits_eq_if (by decide)]
    split
    next small =>
      -- of the ten digits only zero is written so
      have other : ∀ d < 10, 0 < d → Nat.digitChar d ≠ '0' := by decide
      simpa using other n small positive
    next large =>
      rw [List.head?_append_of_ne_nil _ Nat.toDigits_ne_nil]
      exact ih (n / 10) (by omega) (by omega)

/-- Without the zeros at its end a text does not end with zero. -/
theorem dropTrailingZeros_spec (text : List Char) :
    (dropTrailingZeros text).getLast? ≠ some '0' ∧
      ∃ n, text = dropTrailingZeros text ++ List.replicate n '0' := by
  induction text using List.reverseRecOn with
  | nil => exact ⟨by decide, 0, rfl⟩
  | append_singleton front c ih =>
    by_cases zero : c = '0'
    · have shorter : dropTrailingZeros (front ++ [c]) = dropTrailingZeros front := by
        simp [dropTrailingZeros, zero]
      obtain ⟨last, n, same⟩ := ih
      refine ⟨shorter ▸ last, n + 1, ?_⟩
      rw [shorter, List.replicate_succ', ← List.append_assoc, ← same, zero]
    · have whole : dropTrailingZeros (front ++ [c]) = front ++ [c] := by
        simp [dropTrailingZeros, zero]
      refine ⟨?_, 0, ?_⟩
      · rw [whole, List.getLast?_concat]
        exact fun same => zero (Option.some.inj same)
      · rw [whole, List.replicate_zero, List.append_nil]

theorem IsDigits.dropTrailingZeros (digits : IsDigits text) :
    IsDigits (dropTrailingZeros text) := by
  obtain ⟨-, n, same⟩ := dropTrailingZeros_spec text
  rw [same, isDigits_append] at digits
  exact digits.1

end Digits

/-! ### Numerals -/

/-- The number with digits before and after a point. -/
def decimalValue (whole fraction : List Char) : ℚ :=
  digitsValue (whole ++ fraction) / 10 ^ fraction.length

/-- Zeros behind a fraction change nothing. -/
theorem decimalValue_append_zeros {whole fraction : List Char} (whole_digits : IsDigits whole)
    (fraction_digits : IsDigits fraction) (n : ℕ) :
    decimalValue whole (fraction ++ List.replicate n '0') = decimalValue whole fraction := by
  unfold decimalValue
  rw [← List.append_assoc,
    digitsValue_append (isDigits_append.2 ⟨whole_digits, fraction_digits⟩)
    (isDigits_replicate n), digitsValue_replicate, List.length_append,
    List.length_replicate, pow_add]
  push_cast
  rw [add_zero, mul_comm, mul_div_mul_right _ _ (by positivity)]

section Places

variable {digits : List Char} (all_digits : IsDigits digits)

include all_digits

/-- Zeros between the point and the digits move them on. -/
theorem decimalValue_zeros_append (k n : ℕ) :
    decimalValue (List.replicate k '0') (List.replicate n '0' ++ digits) =
      digitsValue digits * 10 ^ (-((n + digits.length : ℕ) : ℤ)) := by
  rw [decimalValue, ← List.append_assoc, List.replicate_append_replicate,
    digitsValue_zeros_append _ all_digits, List.length_append, List.length_replicate, zpow_neg,
    zpow_natCast, div_eq_mul_inv]

/-- Zeros between the digits and the point move them up. -/
theorem decimalValue_append_whole_zeros (n : ℕ) :
    decimalValue (digits ++ List.replicate n '0') [] = digitsValue digits * 10 ^ (n : ℤ) := by
  rw [decimalValue, List.append_nil, digitsValue_append all_digits (isDigits_replicate n),
    digitsValue_replicate, List.length_replicate, List.length_nil, zpow_natCast, pow_zero, div_one,
    Nat.add_zero]
  push_cast
  ring

omit all_digits in
theorem decimalValue_take_drop (n : ℕ) :
    decimalValue (digits.take n) (digits.drop n) =
      digitsValue digits * 10 ^ (-((digits.length - n : ℕ) : ℤ)) := by
  rw [decimalValue, List.take_append_drop, List.length_drop, zpow_neg, zpow_natCast, div_eq_mul_inv]

end Places

/-- The parts of a plain numeral. -/
structure PlainNumeral where
  negative : Bool
  whole : List Char
  fraction : List Char
  whole_digits : IsDigits whole
  fraction_digits : IsDigits fraction
  whole_ne_nil : whole ≠ []

namespace PlainNumeral

/-- The numeral without its sign. -/
def unsigned (n : PlainNumeral) : List Char :=
  n.whole ++ if n.fraction = [] then [] else '.' :: n.fraction

def text (n : PlainNumeral) : List Char := (if n.negative then ['-'] else []) ++ n.unsigned

/-- The number that a plain numeral spells. -/
def value (n : PlainNumeral) : ℚ :=
  if n.negative then -decimalValue n.whole n.fraction else decimalValue n.whole n.fraction

variable (n : PlainNumeral)

theorem exists_unsigned_eq_cons : ∃ c rest, n.unsigned = c :: rest ∧ c.isDigit = true := by
  obtain ⟨c, rest, whole⟩ := List.exists_cons_of_ne_nil n.whole_ne_nil
  refine ⟨c, _, by rw [unsigned, whole, List.cons_append], n.whole_digits c ?_⟩
  rw [whole]
  exact List.mem_cons_self

/-- The parts of a numeral are found again, whatever stands behind it that does not go on with
it. -/
theorem splitSign_text (after : List Char) :
    splitSign (n.text ++ after) = (n.negative, n.unsigned ++ after) := by
  obtain ⟨c, rest, unsigned_eq, digit⟩ := n.exists_unsigned_eq_cons
  unfold text
  cases n.negative with
  | true => rfl
  | false =>
    have noMinus : c ≠ '-' := by
      rintro rfl
      cases digit
    have noPlus : c ≠ '+' := by
      rintro rfl
      cases digit
    rw [unsigned_eq]
    simp [splitSign, noMinus, noPlus]

section After

variable {after : List Char} (stop : ∀ c ∈ after.head?, c.isDigit = false ∧ c ≠ '.')

include stop

theorem takeWhile_unsigned : (n.unsigned ++ after).takeWhile Char.isDigit = n.whole := by
  unfold unsigned
  rw [List.append_assoc]
  refine takeWhile_append_stop n.whole_digits ?_
  split
  · exact fun c first => (stop c first).1
  · intro c first
    cases first
    decide

theorem splitFraction_unsigned :
    splitFraction ((n.unsigned ++ after).dropWhile Char.isDigit) = (n.fraction, after) := by
  -- what comes behind the digits of the whole part is the point, or what follows
  have others : (n.unsigned ++ after).dropWhile Char.isDigit =
      (if n.fraction = [] then [] else '.' :: n.fraction) ++ after := by
    unfold unsigned
    rw [List.append_assoc]
    refine dropWhile_append_stop n.whole_digits ?_
    split
    · exact fun c first => (stop c first).1
    · intro c first
      cases first
      decide
  rw [others]
  split
  next none =>
    rw [none, List.nil_append]
    cases after with
    | nil => rfl
    | cons c rest => rw [splitFraction, if_neg (stop c rfl).2]
  next some =>
    have noDigit : ∀ c ∈ after.head?, c.isDigit = false := fun c first => (stop c first).1
    rw [List.cons_append, splitFraction, if_pos rfl,
      takeWhile_append_stop n.fraction_digits noDigit,
      dropWhile_append_stop n.fraction_digits noDigit]

end After

end PlainNumeral

/-! ### Reading exactly -/

/-- The exact number that a plain numeral spells; the parts are those of numbers that are read as
doubles. -/
def readDecimal? (text : List Char) : Option ℚ :=
  let (negative, magnitude) := splitSign text
  let whole := magnitude.takeWhile Char.isDigit
  let (fraction, rest) := splitFraction (magnitude.dropWhile Char.isDigit)
  if whole.isEmpty && fraction.isEmpty || !rest.isEmpty then none
  else some (if negative then -decimalValue whole fraction else decimalValue whole fraction)

theorem readDecimal?_text (n : PlainNumeral) : readDecimal? n.text = some n.value := by
  have nothing : ∀ c ∈ ([] : List Char).head?, c.isDigit = false ∧ c ≠ '.' := nofun
  have split := n.splitSign_text []
  have whole := n.takeWhile_unsigned nothing
  have fraction := n.splitFraction_unsigned nothing
  rw [List.append_nil] at split whole fraction
  rw [List.append_nil] at split
  have some : (n.whole.isEmpty && n.fraction.isEmpty || !([] : List Char).isEmpty) = false := by
    simp [n.whole_ne_nil]
  simp only [readDecimal?, split, whole, fraction, some, Bool.false_eq_true, if_false]
  rfl

end CurveBoard
