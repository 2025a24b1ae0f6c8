import CurveBoard.Decimal.Reading
import CurveBoard.Proofs.Binary
import CurveBoard.Proofs.Formula.Rescanning

/-!
# Texts that are read as numbers

A number may have blanks around it but none inside, and its digits may be of any script. Without its
blanks, its sign and its underscores it has one of three forms: it is a numeral as formulas have it,
it has an exponent, or it is a word. The form does not depend on the script, since digits are the
only characters with a counterpart.
-/
namespace CurveBoard

/-! ### Characters in ASCII form -/

section Characters

variable {c k : Char} {v : Nat}

private theorem exists_zero_of_digitValue? (found : digitValue? c = some v) :
    ∃ first ∈ digitZeros, c.toNat = first + v ∧ v < 10 := by
  obtain ⟨first, run, rfl⟩ := Option.map_eq_some_iff.1 found
  have inside := List.find?_some run
  simp only [Bool.and_eq_true, decide_eq_true_eq] at inside
  exact ⟨first, List.mem_of_find?_eq_some run, by omega, by omega⟩

private theorem exists_range_of_isBlank (blank : isBlank c = true) :
    ∃ range ∈ blankRanges, range.1 ≤ c.toNat ∧ c.toNat ≤ range.2 := by
  obtain ⟨range, member, inside⟩ := List.any_eq_true.1 blank
  exact ⟨range, member, by simpa using inside⟩

/-- No blank is a digit. -/
theorem digitValue?_of_isBlank (blank : isBlank c = true) : digitValue? c = none := by
  have apart : ∀ first ∈ digitZeros, ∀ range ∈ blankRanges, range.2 < first ∨
      first + 10 ≤ range.1 := by decide
  obtain ⟨range, blanks, above, below⟩ := exists_range_of_isBlank blank
  cases found : digitValue? c with
  | none => rfl
  | some v =>
    obtain ⟨first, digits, place, small⟩ := exists_zero_of_digitValue? found
    have := apart first digits range blanks
    omega

theorem isDecimalDigit_of_isDigit (digit : c.isDigit = true) : isDecimalDigit c = true := by
  obtain ⟨above, below⟩ := Char.isDigit_iff_toNat.1 digit
  have at_least : 48 ≤ c.toNat := above
  have at_most : c.toNat ≤ 57 := below
  rw [isDecimalDigit, digitValue?, Option.isSome_map, List.find?_isSome]
  exact ⟨0x30, by decide, by simp only [Bool.and_eq_true, decide_eq_true_eq]; omega⟩

private theorem asciiForm_cases (c : Char) :
    (∃ v, v < 10 ∧ digitValue? c = some v ∧ asciiForm c = Char.ofNat (0x30 + v)) ∨
      (isBlank c = true ∧ asciiForm c = ' ') ∨ (digitValue? c = none ∧ asciiForm c = c) := by
  unfold asciiForm
  split
  next v found =>
    obtain ⟨-, -, -, small⟩ := exists_zero_of_digitValue? found
    exact .inl ⟨v, small, found, rfl⟩
  next other =>
    split
    next blank =>
      simp only [Bool.and_eq_true] at blank
      exact .inr (.inl ⟨blank.2, rfl⟩)
    · exact .inr (.inr ⟨other, rfl⟩)

/-- A digit keeps its value. -/
theorem digitValue?_asciiForm (c : Char) : digitValue? (asciiForm c) = digitValue? c := by
  have ascii : ∀ v < 10, digitValue? (Char.ofNat (0x30 + v)) = some v := by decide
  rcases asciiForm_cases c with ⟨v, small, found, same⟩ | ⟨blank, same⟩ | ⟨-, same⟩
  · rw [same, found, ascii v small]
  · rw [same, digitValue?_of_isBlank blank]
    decide
  · rw [same]

private theorem isBlank_asciiForm (blank : isBlank c = true) : isBlank (asciiForm c) = true := by
  rcases asciiForm_cases c with ⟨v, -, found, -⟩ | ⟨-, same⟩ | ⟨-, same⟩
  · rw [digitValue?_of_isBlank blank] at found
    cases found
  · rw [same]
    decide
  · rw [same, blank]

theorem isBlank_of_isAsciiBlank (blank : isAsciiBlank c = true) : isBlank c = true := by
  simp only [isAsciiBlank, Bool.or_eq_true, beq_iff_eq, Bool.and_eq_true,
    decide_eq_true_eq] at blank
  rcases blank with rfl | ⟨above, below⟩
  · decide
  · have at_least : 9 ≤ c.toNat := above
    have at_most : c.toNat ≤ 13 := below
    refine List.any_eq_true.2 ⟨(0x9, 0xD), by decide, ?_⟩
    simp only [Bool.and_eq_true, decide_eq_true_eq]
    omega

private theorem isBlank_of_isAsciiBlank_asciiForm (blank : isAsciiBlank (asciiForm c) = true) :
    isBlank c = true := by
  have ascii : ∀ v < 10, isAsciiBlank (Char.ofNat (0x30 + v)) = false := by decide
  rcases asciiForm_cases c with ⟨v, small, -, same⟩ | ⟨found, -⟩ | ⟨-, same⟩
  · rw [same, ascii v small] at blank
    cases blank
  · exact found
  · rw [same] at blank
    exact isBlank_of_isAsciiBlank blank

/-- What is neither a digit nor a blank stands for itself, and nothing else stands for it. -/
theorem asciiForm_eq_iff (noDigit : digitValue? k = none) (unblank : isBlank k = false) :
    asciiForm c = k ↔ c = k := by
  have ascii : ∀ v < 10, digitValue? (Char.ofNat (0x30 + v)) = some v := by decide
  constructor
  · rintro rfl
    rw [digitValue?_asciiForm] at noDigit
    rcases asciiForm_cases c with ⟨v, -, found, -⟩ | ⟨-, same⟩ | ⟨-, same⟩
    · rw [noDigit] at found
      cases found
    · rw [same] at unblank
      cases unblank
    · exact same.symm
  · rintro rfl
    rcases asciiForm_cases c with ⟨v, -, found, -⟩ | ⟨blank, -⟩ | ⟨-, same⟩
    · rw [noDigit] at found
      cases found
    · rw [unblank] at blank
      cases blank
    · exact same

end Characters

/-! ### Blanks around a text -/

section Blanks

variable {p : Char → Bool} {before inner after : List Char}

/-- What is taken off both ends are the blanks there. -/
theorem dropWhile_both (blank_before : ∀ c ∈ before, p c = true)
    (blank_after : ∀ c ∈ after, p c = true) (unblank : ∀ c ∈ inner, p c = false) :
    (((before ++ (inner ++ after)).dropWhile p).reverse.dropWhile p).reverse = inner := by
  cases inner with
  | nil =>
    have all : ∀ c ∈ before ++ after, p c = true :=
      List.forall_mem_append.2 ⟨blank_before, blank_after⟩
    rw [List.nil_append, List.dropWhile_eq_nil_iff.2 all]
    rfl
  | cons first others =>
    have front : (before ++ (first :: others ++ after)).dropWhile p = first :: others ++ after :=
      dropWhile_append_stop blank_before fun c head => unblank c (by simp_all)
    have back : (after.reverse ++ (first :: others).reverse).dropWhile p =
        (first :: others).reverse := by
      refine dropWhile_append_stop (fun c member =>
        blank_after c (List.mem_reverse.1 member)) fun c head => ?_
      exact unblank c (List.mem_reverse.1 (List.mem_of_head? head))
    rw [front, List.reverse_append, back, List.reverse_reverse]

private theorem exists_blanks_around (p : Char → Bool) (chars : List Char) :
    ∃ before after, chars =
      before ++ (((chars.dropWhile p).reverse.dropWhile p).reverse ++ after) ∧
        (∀ c ∈ before, p c = true) ∧ ∀ c ∈ after, p c = true := by
  refine ⟨chars.takeWhile p, ((chars.dropWhile p).reverse.takeWhile p).reverse, ?_, ?_, ?_⟩
  · rw [← List.reverse_append, List.takeWhile_append_dropWhile, List.reverse_reverse,
      List.takeWhile_append_dropWhile]
  · exact fun c member => List.mem_takeWhile_imp member
  · exact fun c member => List.mem_takeWhile_imp (List.mem_reverse.1 member)

theorem mem_of_mem_trimBlanks {c : Char} {text : List Char} (member : c ∈ trimBlanks text) :
    c ∈ text := by
  obtain ⟨before, after, whole, -, -⟩ := exists_blanks_around isBlank text
  change text = before ++ (trimBlanks text ++ after) at whole
  rw [whole]
  exact List.mem_append_right _ (List.mem_append_left _ member)

/-- A text whose number is written without blanks is this number with blanks around it. -/
theorem exists_numeral {text : List Char}
    (unblank : ∀ c ∈ bareNumeral text, isBlank c = false) :
    (trimBlanks text).map asciiForm = bareNumeral text ∧
    bareNumeral (trimBlanks text) = bareNumeral text ∧
        ∀ c ∈ trimBlanks text, isBlank c = false := by
  obtain ⟨before, after, whole, blank_before, blank_after⟩ :=
    exists_blanks_around isAsciiBlank (text.map asciiForm)
  change _ = before ++ (bareNumeral text ++ after) at whole
  obtain ⟨before', rest, text_eq, rfl, same⟩ := List.map_eq_append_iff.1 whole
  obtain ⟨inner, after', rfl, inner_eq, rfl⟩ := List.map_eq_append_iff.1 same
  have inner_unblank : ∀ c ∈ inner, isBlank c = false := by
    intro c member
    have found : asciiForm c ∈ bareNumeral text := inner_eq ▸ List.mem_map_of_mem member
    exact Bool.eq_false_iff.2 fun blank =>
      Bool.eq_false_iff.1 (unblank _ found) (isBlank_asciiForm blank)
  have trimmed : trimBlanks text = inner := by
    rw [text_eq]
    refine dropWhile_both (fun c member => ?_) (fun c member => ?_) inner_unblank
    · exact isBlank_of_isAsciiBlank_asciiForm (blank_before _ (List.mem_map_of_mem member))
    · exact isBlank_of_isAsciiBlank_asciiForm (blank_after _ (List.mem_map_of_mem member))
  rw [trimmed]
  refine ⟨inner_eq, ?_, inner_unblank⟩
  -- nothing is taken off any more
  have again :
      ((([] ++ (bareNumeral text ++ [])).dropWhile isAsciiBlank).reverse.dropWhile
        isAsciiBlank).reverse = bareNumeral text := by
    refine dropWhile_both (by simp) (by simp) fun c member => Bool.eq_false_iff.2 fun blank => ?_
    exact Bool.eq_false_iff.1 (unblank c member) (isBlank_of_isAsciiBlank blank)
  rw [List.nil_append, List.append_nil] at again
  rw [bareNumeral, inner_eq, again]

end Blanks

/-! ### The forms of a number -/

/-- A sign as it is written, if there is one. -/
def signText : Option Bool → List Char
  | none => []
  | some negative => [(Symbol.ofSign negative).char]

/-- The words for infinity and NaN, in lower case. -/
def numberWords : List (List Char) := ["inf".toList, "infinity".toList, "nan".toList]

/-- Whether a character is a digit, a point or a sign. -/
def IsNumeric (c : Char) : Prop := isDecimalDigit c = true ∨ c = '.' ∨ c = '+' ∨ c = '-'

/-- The forms of an unsigned number: a numeral as formulas have it, one with an exponent, or a
word. -/
inductive IsMagnitude (negative : Bool) (x : Float) : List Char → Prop
  | numeral (digits : List Char) (numeral : IsNumeral digits)
      (value : x = if negative then -numeralValue digits else numeralValue digits) :
        IsMagnitude negative x digits
  | scientific (before : List Char) (mark : Char) (after : List Char)
      (marked : mark = 'e' ∨ mark = 'E')
      (others : ∀ c ∈ before ++ after, IsNumeric c) :
        IsMagnitude negative x (before ++ mark :: after)
  | word (letters : List Char) (known : letters.map Char.toLower ∈ numberWords) :
      IsMagnitude negative x letters

theorem isNumeric_signText (sign : Option Bool) : ∀ c ∈ signText sign, IsNumeric c := by
  rcases sign with _ | _ | _
  · exact List.forall_mem_nil _
  · exact List.forall_mem_singleton.2 (.inr (.inr (.inl rfl)))
  · exact List.forall_mem_singleton.2 (.inr (.inr (.inr rfl)))

section Forms

variable {negative : Bool} {text rest fraction : List Char} {x : Float} {exponent : Int}

private theorem splitSign_eq (split : splitSign text = (negative, rest)) :
    ∃ sign : Option Bool, text = signText sign ++ rest ∧ negative = sign.getD false := by
  unfold splitSign at split
  split at split
  · split_ifs at split with minus plus
    · cases split
      exact ⟨some true, by rw [minus]; rfl, rfl⟩
    · cases split
      exact ⟨some false, by rw [plus]; rfl, rfl⟩
    · cases split
      exact ⟨none, rfl, rfl⟩
  · cases split
    exact ⟨none, rfl, rfl⟩

private theorem splitFraction_eq (split : splitFraction text = (fraction, rest)) :
    (text = '.' :: (fraction ++ rest) ∧ ∀ c ∈ fraction, isDecimalDigit c = true) ∨
    fraction = [] ∧ text = rest := by
  unfold splitFraction at split
  split at split
  · split_ifs at split with point
    · cases split
      refine .inl ⟨by rw [point, List.takeWhile_append_dropWhile], fun c member => ?_⟩
      exact isDecimalDigit_of_isDigit (List.mem_takeWhile_imp member)
    · cases split
      exact .inr ⟨rfl, rfl⟩
  · cases split
    exact .inr ⟨rfl, rfl⟩

private theorem readExponent?_eq (read : readExponent? text = some exponent) :
    text = [] ∧ exponent = 0 ∨ ∃ mark sign digits,
      text = mark :: (signText sign ++ digits) ∧ (mark = 'e' ∨ mark = 'E') ∧
        ∀ c ∈ digits, isDecimalDigit c = true := by
  unfold readExponent? at read
  split at read
  · cases read
    exact .inl ⟨rfl, rfl⟩
  next mark rest =>
    cases split : splitSign rest with | mk negative digits =>
    rw [split] at read
    dsimp only at read
    obtain ⟨sign, rfl, -⟩ := splitSign_eq split
    split at read
    next marked =>
      split at read
      next valid =>
        simp only [Bool.or_eq_true, decide_eq_true_eq] at marked
        simp only [Bool.and_eq_true, List.all_eq_true] at valid
        exact .inr ⟨mark, sign, digits, rfl, marked, fun c member =>
          isDecimalDigit_of_isDigit (valid.2 c member)⟩
      · cases read
    · cases read

private theorem noPoint_of_digits (digits : ∀ c ∈ text, isDecimalDigit c = true) :
    ∀ c ∈ text, decide (c ≠ '.') = true := by
  intro c member
  refine decide_eq_true ?_
  rintro rfl
  cases isDecimalDigit_point.symm.trans (digits _ member)

private theorem numeralValue_whole (digits : ∀ c ∈ text, isDecimalDigit c = true) :
    numeralValue text = floatOfDecimal false (digitsValue text) 0 := by
  unfold numeralValue
  rw [List.takeWhile_eq_self_iff.2 (noPoint_of_digits digits),
    List.dropWhile_eq_nil_iff.2 (noPoint_of_digits digits)]
  simp

private theorem numeralValue_point (digits : ∀ c ∈ text, isDecimalDigit c = true) :
    numeralValue (text ++ '.' :: fraction) =
      floatOfDecimal false (digitsValue (text ++ fraction)) (-fraction.length) := by
  have stop : ∀ c ∈ ('.' :: fraction).head?, decide (c ≠ '.') = false := by simp
  unfold numeralValue
  simp only [takeWhile_append_stop (noPoint_of_digits digits) stop,
    dropWhile_append_stop (noPoint_of_digits digits) stop, List.drop_one, List.tail_cons]

private theorem floatOfDecimal_negative (coefficient : Nat) :
    floatOfDecimal negative coefficient exponent =
      if negative then -floatOfDecimal false coefficient exponent
        else floatOfDecimal false coefficient exponent := by
  cases negative with
  | false => rw [if_neg Bool.false_ne_true]
  | true => rw [if_pos rfl, neg_floatOfDecimal]

/-- Digits with a fraction behind them, or without one, are a numeral for the double that is
read. -/
theorem isNumeral_of_splitFraction {whole : List Char} (split : splitFraction text = (fraction, []))
    (digits : ∀ c ∈ whole, isDecimalDigit c = true) (some : whole ≠ [] ∨ fraction ≠ []) :
    IsNumeral (whole ++ text) ∧
      numeralValue (whole ++ text) =
        floatOfDecimal false (digitsValue (whole ++ fraction)) (-fraction.length) := by
  rcases splitFraction_eq split with ⟨rfl, fraction_digits⟩ | ⟨rfl, rfl⟩
  · rw [List.append_nil]
    exact ⟨.point whole fraction some digits fraction_digits, numeralValue_point digits⟩
  · rw [List.append_nil, numeralValue_whole digits]
    exact ⟨.whole whole (by simpa using some) digits, rfl⟩

private theorem exists_numeric_of_splitFraction (split : splitFraction text = (fraction, rest)) :
    ∃ front, text = front ++ rest ∧ ∀ c ∈ front, IsNumeric c := by
  rcases splitFraction_eq split with ⟨rfl, digits⟩ | ⟨-, rfl⟩
  · exact ⟨'.' :: fraction, rfl, List.forall_mem_cons.2 ⟨.inr (.inl rfl), fun c member =>
      .inl (digits c member)⟩⟩
  · exact ⟨[], rfl, by simp⟩

private theorem isMagnitude_of_readMagnitude? (read : readMagnitude? negative text = some x) :
    IsMagnitude negative x text := by
  have digits : ∀ c ∈ text.takeWhile Char.isDigit, isDecimalDigit c = true :=
    fun c member => isDecimalDigit_of_isDigit (List.mem_takeWhile_imp member)
  unfold readMagnitude? at read
  cases split : splitFraction (text.dropWhile Char.isDigit) with | mk fraction rest =>
  simp only [split] at read
  split at read
  · cases read
  next some =>
    obtain ⟨exponent, marked, rfl⟩ := Option.map_eq_some_iff.1 read
    rw [← List.takeWhile_append_dropWhile (p := Char.isDigit) (l := text)]
    rcases readExponent?_eq marked with ⟨rfl, rfl⟩ |
      ⟨mark, sign, others, rfl, mark_eq, other_digits⟩
    · -- without an exponent
      obtain ⟨numeral, value⟩ :=
        isNumeral_of_splitFraction split digits (by simpa [-not_and, not_and_or] using some)
      refine .numeral _ numeral ?_
      rw [zero_sub, floatOfDecimal_negative, value, List.takeWhile_append_dropWhile]
    · -- with one
      obtain ⟨front, after, front_numeric⟩ := exists_numeric_of_splitFraction split
      rw [after, ← List.append_assoc]
      refine .scientific _ mark _ mark_eq ?_
      simp only [List.forall_mem_append]
      exact ⟨⟨fun c member => .inl (digits c member), front_numeric⟩,
        isNumeric_signText sign, fun c member => .inl (other_digits c member)⟩

private theorem isMagnitude_of_readWord? (read : readWord? negative text = some x) :
    IsMagnitude negative x text := by
  refine .word text ?_
  unfold readWord? at read
  dsimp only at read
  by_cases infinite : (decide (text.map Char.toLower = "inf".toList) ||
      decide (text.map Char.toLower = "infinity".toList)) = true
  · simp only [Bool.or_eq_true, decide_eq_true_eq] at infinite
    rcases infinite with same | same <;> rw [same] <;> simp [numberWords]
  · rw [if_neg infinite] at read
    split at read
    next undefined => simp [undefined, numberWords]
    · cases read

/-- The underscores are all that is left out. -/
theorem mem_ungrouped? {afterDigit : Bool} {numeral : List Char}
    (read : ungrouped? afterDigit text = some numeral) :
    ∀ c ∈ text, c = '_' ∨ c ∈ numeral := by
  induction text generalizing afterDigit numeral with
  | nil => simp
  | cons first others ih =>
    rw [ungrouped?] at read
    split at read
    next grouped =>
      split at read
      · exact List.forall_mem_cons.2 ⟨.inl grouped, ih read⟩
      · cases read
    · obtain ⟨kept, later, rfl⟩ := Option.map_eq_some_iff.1 read
      refine List.forall_mem_cons.2 ⟨.inr List.mem_cons_self, fun c member => ?_⟩
      exact (ih later c member).imp_right (List.mem_cons_of_mem first)

theorem ungrouped?_eq_self (afterDigit : Bool) (missing : '_' ∉ text) :
    ungrouped? afterDigit text = some text := by
  induction text generalizing afterDigit with
  | nil => rfl
  | cons first others ih =>
    rw [List.mem_cons, not_or] at missing
    rw [ungrouped?, if_neg (Ne.symm missing.1), ih _ missing.2]
    rfl

private theorem exists_magnitude (accepted : readFloat? text = some x) :
    ∃ sign magnitude, ungrouped? false (bareNumeral text) = some (signText sign ++ magnitude) ∧
      IsMagnitude (sign.getD false) x magnitude := by
  obtain ⟨numeral, ungrouped, read⟩ := Option.bind_eq_some_iff.1 accepted
  cases split : splitSign numeral with | mk negative magnitude =>
  obtain ⟨sign, rfl, rfl⟩ := splitSign_eq split
  rw [split] at read
  refine ⟨sign, magnitude, ungrouped, ?_⟩
  dsimp only at read
  cases found : readMagnitude? (sign.getD false) magnitude with
  | none =>
    rw [found] at read
    exact isMagnitude_of_readWord? read
  | some y =>
    rw [found] at read
    cases read
    exact isMagnitude_of_readMagnitude? found

end Forms

/-! ### Numbers in any script -/

section Scripts

variable {negative : Bool} {text : List Char} {x : Float}

private theorem digitsValue_asciiForm (digits : List Char) :
    digitsValue (digits.map asciiForm) = digitsValue digits := by
  rw [digitsValue, List.foldl_map]
  simp only [digitValue?_asciiForm]
  rfl

private theorem asciiForm_eq_point {c : Char} : asciiForm c = '.' ↔ c = '.' :=
  asciiForm_eq_iff (by decide) (by decide)

private theorem numeralValue_asciiForm (digits : List Char) :
    numeralValue (digits.map asciiForm) = numeralValue digits := by
  have point : (fun c => decide (c ≠ '.')) ∘ asciiForm = fun c => decide (c ≠ '.') := by
    funext c
    simp [asciiForm_eq_point]
  unfold numeralValue
  rw [List.takeWhile_map, List.dropWhile_map, point, ← List.map_drop]
  dsimp only
  rw [← List.map_append, digitsValue_asciiForm, List.length_map]

private theorem isDecimalDigit_asciiForm (c : Char) :
    isDecimalDigit (asciiForm c) = isDecimalDigit c := by
  rw [isDecimalDigit, digitValue?_asciiForm, isDecimalDigit]

private theorem isNumeric_asciiForm {c : Char} : IsNumeric (asciiForm c) ↔ IsNumeric c := by
  unfold IsNumeric
  rw [isDecimalDigit_asciiForm, asciiForm_eq_point, asciiForm_eq_iff (by decide) (by decide),
    asciiForm_eq_iff (by decide) (by decide)]

theorem isBlank_alpha {c : Char} (letter : c.isAlpha = true) : isBlank c = false := by
  have apart : ∀ range ∈ blankRanges, range.2 < 65 ∨ 122 < range.1 := by decide
  have bounds := isAlpha_bounds letter
  refine Bool.eq_false_iff.2 fun blank => ?_
  obtain ⟨range, member, above, below⟩ := exists_range_of_isBlank blank
  have := apart range member
  omega

private theorem digitValue?_alpha {c : Char} (letter : c.isAlpha = true) : digitValue? c = none :=
  Option.not_isSome_iff_eq_none.1 (Bool.eq_false_iff.1 (isDecimalDigit_alpha letter))

private theorem asciiForm_eq_alpha {c k : Char} (letter : k.isAlpha = true) :
    asciiForm c = k ↔ c = k :=
  asciiForm_eq_iff (digitValue?_alpha letter) (isBlank_alpha letter)

private theorem isAlpha_of_toLower {c : Char} (letter : c.toLower.isAlpha = true) :
    c.isAlpha = true := by
  unfold Char.toLower at letter
  split at letter
  next upper => simpa [Char.isAlpha, Char.isUpper] using .inl upper
  · exact letter

theorem isAlpha_of_word {letters : List Char} (known : letters.map Char.toLower ∈ numberWords) :
    ∀ c ∈ letters, c.isAlpha = true := by
  have alpha : numberWords.all (·.all Char.isAlpha) = true := by decide
  intro c member
  exact isAlpha_of_toLower (List.all_eq_true.1 (List.all_eq_true.1 alpha _ known) _
    (List.mem_map_of_mem member))

private theorem isNumeral_of_asciiForm {digits : List Char}
    (numeral : IsNumeral (digits.map asciiForm)) :
    IsNumeral digits := by
  generalize form : digits.map asciiForm = ascii at numeral
  have digit {chars : List Char} (all : ∀ c ∈ chars.map asciiForm, isDecimalDigit c = true) :
      ∀ c ∈ chars, isDecimalDigit c = true :=
    fun c member => isDecimalDigit_asciiForm c ▸ all _ (List.mem_map_of_mem member)
  cases numeral with
  | whole _ some all =>
    subst form
    exact .whole _ (by simpa using some) (digit all)
  | point whole fraction some all all' =>
    obtain ⟨whole', rest, rfl, rfl, after⟩ := List.map_eq_append_iff.1 form
    obtain ⟨point, fraction', rfl, same, rfl⟩ := List.map_eq_cons_iff.1 after
    rw [asciiForm_eq_point.1 same]
    exact .point _ _ (by simpa using some) (digit all) (digit all')

/-- A number has the same form in all scripts. -/
theorem IsMagnitude.of_asciiForm (magnitude : IsMagnitude negative x (text.map asciiForm)) :
    IsMagnitude negative x text := by
  generalize form : text.map asciiForm = ascii at magnitude
  cases magnitude with
  | numeral digits numeral value =>
    subst form
    rw [numeralValue_asciiForm] at value
    exact .numeral _ (isNumeral_of_asciiForm numeral) value
  | scientific before mark after marked others =>
    obtain ⟨before', rest, rfl, rfl, later⟩ := List.map_eq_append_iff.1 form
    obtain ⟨mark', after', rfl, same, rfl⟩ := List.map_eq_cons_iff.1 later
    have mark_eq : mark' = mark := by
      rcases marked with rfl | rfl
      · exact (asciiForm_eq_alpha (by decide)).1 same
      · exact (asciiForm_eq_alpha (by decide)).1 same
    subst mark_eq
    refine .scientific before' mark' after' marked fun c member => ?_
    exact isNumeric_asciiForm.1
      (others _ (by rw [← List.map_append]; exact List.mem_map_of_mem member))
  | word letters known =>
    subst form
    -- a word is written in letters, which have no other form
    have same : text.map asciiForm = text := by
      refine (List.map_congr_left fun c member => ?_).trans (List.map_id text)
      exact ((asciiForm_eq_alpha (isAlpha_of_word known _ (List.mem_map_of_mem member))).1 rfl).symm
    rw [same] at known
    exact .word text known

/-! ### What is read -/

theorem isBlank_digit {c : Char} (digit : isDecimalDigit c = true) : isBlank c = false := by
  refine Bool.eq_false_iff.2 fun blank => ?_
  rw [isDecimalDigit, digitValue?_of_isBlank blank] at digit
  cases digit

theorem IsNumeric.isBlank {c : Char} (numeric : IsNumeric c) : isBlank c = false := by
  rcases numeric with digit | rfl | rfl | rfl
  · exact isBlank_digit digit
  all_goals decide

theorem IsNumeric.isAlpha {c : Char} (numeric : IsNumeric c) : c.isAlpha = false := by
  rcases numeric with digit | rfl | rfl | rfl
  · refine Bool.eq_false_iff.2 fun alpha => ?_
    cases (isDecimalDigit_alpha alpha).symm.trans digit
  all_goals decide

theorem IsNumeral.isNumeric {digits : List Char} (numeral : IsNumeral digits) :
    ∀ c ∈ digits, IsNumeric c := by
  cases numeral with
  | whole _ _ all => exact fun c member => .inl (all c member)
  | point whole fraction _ all all' =>
    have after : ∀ c ∈ '.' :: fraction, IsNumeric c :=
      List.forall_mem_cons.2 ⟨.inr (.inl rfl), fun c member => .inl (all' c member)⟩
    exact List.forall_mem_append.2 ⟨fun c member => .inl (all c member), after⟩

theorem IsMagnitude.unblank (magnitude : IsMagnitude negative x text) :
    ∀ c ∈ text, isBlank c = false := by
  cases magnitude with
  | numeral _ numeral _ => exact fun c member => (numeral.isNumeric c member).isBlank
  | scientific before mark after marked others =>
    obtain ⟨front, back⟩ := List.forall_mem_append.1 others
    refine List.forall_mem_append.2 ⟨fun c member => (front c member).isBlank,
      List.forall_mem_cons.2 ⟨?_, fun c member => (back c member).isBlank⟩⟩
    rcases marked with rfl | rfl <;> decide
  | word letters known => exact fun c member => isBlank_alpha (isAlpha_of_word known c member)

/-- There are no blanks inside a number. -/
theorem unblank_of_readFloat? (accepted : readFloat? text = some x) :
    ∀ c ∈ bareNumeral text, isBlank c = false := by
  obtain ⟨sign, magnitude, ungrouped, form⟩ := exists_magnitude accepted
  intro c member
  rcases mem_ungrouped? ungrouped c member with rfl | inside
  · decide
  · rcases List.mem_append.1 inside with signs | inside
    · exact (isNumeric_signText sign c signs).isBlank
    · exact form.unblank c inside

theorem readFloat?_trimBlanks (accepted : readFloat? text = some x) :
    readFloat? (trimBlanks text) = some x := by
  rw [← accepted, readFloat?, readFloat?, (exists_numeral (unblank_of_readFloat? accepted)).2.1]

private theorem signText_of_asciiForm {sign : Option Bool} {chars : List Char}
    (form : chars.map asciiForm = signText sign) :
    chars = signText sign := by
  cases sign with
  | none => exact List.map_eq_nil_iff.1 form
  | some negative =>
    obtain ⟨c, rfl, same⟩ := List.map_eq_singleton_iff.1 form
    rw [signText,
      (asciiForm_eq_iff (by cases negative <;> decide) (by cases negative <;> decide)).1 same]

/-- A number that is written without underscores, in whatever script, is a sign and an unsigned
number. -/
theorem exists_spelling (accepted : readFloat? text = some x)
    (ungrouped : '_' ∉ trimBlanks text) :
    ∃ sign magnitude, trimBlanks text = signText sign ++ magnitude ∧
      IsMagnitude (sign.getD false) x magnitude := by
  obtain ⟨form, -, -⟩ := exists_numeral (unblank_of_readFloat? accepted)
  obtain ⟨sign, ascii, read, magnitude⟩ := exists_magnitude accepted
  have missing : '_' ∉ bareNumeral text := by
    rw [← form, List.mem_map]
    rintro ⟨c, member, same⟩
    rw [asciiForm_eq_iff (by decide) (by decide)] at same
    exact ungrouped (same ▸ member)
  rw [ungrouped?_eq_self false missing, ← form] at read
  obtain ⟨signs, body, whole, signs_eq, rfl⟩ := List.map_eq_append_iff.1 (Option.some.inj read)
  refine ⟨sign, body, ?_, magnitude.of_asciiForm⟩
  rw [whole, signText_of_asciiForm signs_eq]

end Scripts

end CurveBoard
