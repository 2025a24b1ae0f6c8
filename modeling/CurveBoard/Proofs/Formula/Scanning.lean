import CurveBoard.Proofs.Formula.Completeness
import Mathlib.Data.List.TakeWhile

/-!
# What is scanned

The scanner finds a lexeme at the start of a text if its characters stand there and the next one
does not go on with it. So a text falls into tokens in one way only, without loss, and each token is
the longest lexeme that starts where it does. A text that is refused has a first place where no
lexeme starts; what stands before it is the longest prefix that is not refused.
-/
namespace CurveBoard

section Numerals

variable {chars digits rest : List Char}

theorem takeWhile_append_stop {p : Char → Bool} (all : ∀ c ∈ digits, p c = true)
    (stop : ∀ c ∈ rest.head?, p c = false) : (digits ++ rest).takeWhile p = digits := by
  rw [List.takeWhile_append_of_pos all]
  cases rest with
  | nil => simp
  | cons c others => simp [stop c rfl]

theorem dropWhile_append_stop {p : Char → Bool} (all : ∀ c ∈ digits, p c = true)
    (stop : ∀ c ∈ rest.head?, p c = false) : (digits ++ rest).dropWhile p = rest := by
  rw [List.dropWhile_append_of_pos all]
  cases rest with
  | nil => simp
  | cons c others => simp [stop c rfl]

private theorem head?_dropWhile_stop (p : Char → Bool) (chars : List Char) :
    ∀ c ∈ (chars.dropWhile p).head?, p c = false := by
  intro c head
  have stopped := List.head?_dropWhile_not p chars
  rw [head] at stopped
  simpa using stopped

/-- The forms of a numeral: digits alone, or digits around a point. -/
inductive IsNumeral : List Char → Prop
  | whole (digits : List Char) (some : digits ≠ [])
      (all : ∀ c ∈ digits, isDecimalDigit c = true) :
      IsNumeral digits
  | point (digits fraction : List Char) (some : digits ≠ [] ∨ fraction ≠ [])
      (all : ∀ c ∈ digits, isDecimalDigit c = true)
      (all' : ∀ c ∈ fraction, isDecimalDigit c = true) :
      IsNumeral (digits ++ '.' :: fraction)

theorem isDecimalDigit_point : isDecimalDigit '.' = false := by decide

private theorem point_notMem (all : ∀ c ∈ digits, isDecimalDigit c = true) : '.' ∉ digits :=
  fun member => by
  cases isDecimalDigit_point.symm.trans (all '.' member)

/-- What is split off is a numeral, and what follows does not go on with it. -/
theorem splitNumeral?_eq_some (found : splitNumeral? chars = some (digits, rest)) :
    IsNumeral digits ∧ ∀ c ∈ rest.head?, isDecimalDigit c = false ∧
      (c = '.' → '.' ∈ digits) := by
  unfold splitNumeral? at found
  have all : ∀ c ∈ chars.takeWhile isDecimalDigit, isDecimalDigit c = true :=
    fun c member => List.mem_takeWhile_imp member
  split at found
  next after _ =>
    dsimp only at found
    split at found
    · cases found
    next nonempty =>
      cases found
      refine ⟨.point _ _ ?_ all fun c member => List.mem_takeWhile_imp member,
        fun c head => ⟨head?_dropWhile_stop _ _ c head, fun _ => by simp⟩⟩
      simpa [-not_and, not_and_or] using nonempty
  next noPoint =>
    dsimp only at found
    split at found
    · cases found
    next nonempty =>
      cases found
      refine ⟨.whole _ (by simpa using nonempty) all, fun c head =>
        ⟨head?_dropWhile_stop _ _ c head, ?_⟩⟩
      -- a point would have been taken
      rintro rfl
      obtain ⟨after, start⟩ := List.head?_eq_some_iff.1 head
      exact absurd start (noPoint after)

/-- A numeral is split off whole in front of what does not go on with it. -/
theorem IsNumeral.splitNumeral? (numeral : IsNumeral digits)
    (stop : ∀ c ∈ rest.head?, isDecimalDigit c = false ∧ (c = '.' → '.' ∈ digits)) :
    CurveBoard.splitNumeral? (digits ++ rest) = some (digits, rest) := by
  have stop_digit : ∀ c ∈ rest.head?, isDecimalDigit c = false := fun c head => (stop c head).1
  cases numeral with
  | whole digits some all =>
    unfold CurveBoard.splitNumeral?
    rw [takeWhile_append_stop all stop_digit, dropWhile_append_stop all stop_digit]
    split
    next after => exact absurd ((stop '.' rfl).2 rfl) (point_notMem all)
    -- a numeral without a point has digits, so it is not refused as empty
    · simpa using some
  | point digits fraction some all all' =>
    have stop_point : ∀ c ∈ ('.' :: (fraction ++ rest)).head?, isDecimalDigit c = false := by
      simp [isDecimalDigit_point]
    unfold CurveBoard.splitNumeral?
    simp only [List.append_assoc, List.cons_append, takeWhile_append_stop all stop_point,
      dropWhile_append_stop all stop_point, takeWhile_append_stop all' stop_digit,
      dropWhile_append_stop all' stop_digit]
    rw [if_neg (by simpa [-not_and, not_and_or] using some)]

/-- A numeral starts with a digit, or with a point in front of one. -/
theorem splitNumeral?_eq_none_iff {c : Char} {after : List Char} :
    splitNumeral? (c :: after) = none ↔
    isDecimalDigit c = false ∧ (c = '.' → ∀ d ∈ after.head?, isDecimalDigit d = false) := by
  unfold splitNumeral?
  cases digit : isDecimalDigit c with
  | true =>
    simp only [List.takeWhile_cons, digit]
    split <;> simp
  | false =>
    simp only [List.takeWhile_cons, List.dropWhile_cons, digit, true_and]
    by_cases point : c = '.'
    · subst point
      cases after with
      | nil => simp
      | cons d more => cases fraction : isDecimalDigit d <;> simp [fraction]
    · simp [point]

end Numerals

/-! ### One lexeme -/

theorem isAlpha_bounds {c : Char} (letter : c.isAlpha = true) :
    (65 ≤ c.toNat ∧ c.toNat ≤ 90) ∨ (97 ≤ c.toNat ∧ c.toNat ≤ 122) := by
  delta Char.isAlpha Char.isUpper Char.isLower at letter
  simp only [Bool.or_eq_true, Bool.and_eq_true, decide_eq_true_eq, UInt32.le_iff_toNat_le] at letter
  exact letter

theorem isDecimalDigit_alpha {c : Char} (letter : c.isAlpha = true) : isDecimalDigit c = false := by
  -- no run of digits meets the ASCII letters
  have apart : ∀ first ∈ digitZeros, first + 10 ≤ 65 ∨ 122 < first := by decide
  have bounds := isAlpha_bounds letter
  -- a digit is at most nine places behind the zero of its run
  rw [isDecimalDigit, digitValue?, Option.isSome_map, ← Bool.not_eq_true, List.find?_isSome]
  rintro ⟨first, member, inside⟩
  have := apart first member
  simp only [Bool.and_eq_true, decide_eq_true_eq] at inside
  omega

theorem isDecimalDigit_symbol (s : Symbol) : isDecimalDigit s.char = false := by
  cases s <;> decide

theorem isAlpha_symbol (s : Symbol) : s.char.isAlpha = false := by
  cases s <;> decide

theorem char_ne_point (s : Symbol) : s.char ≠ '.' := by
  cases s <;> decide

private theorem ofChar?_char (s : Symbol) : Symbol.ofChar? s.char = some s := by
  cases s <;> decide

private theorem ofChar?_eq_none {c : Char} :
    Symbol.ofChar? c = none ↔ ∀ s : Symbol, s.char ≠ c := by
  constructor
  · rintro none s rfl
    cases (ofChar?_char s).symm.trans none
  · intro other
    cases found : Symbol.ofChar? c with
    | none => rfl
    | some s => exact absurd (Symbol.char_of_ofChar? found) (other s)

private theorem ne_point_of_isAlpha {c : Char} (letter : c.isAlpha = true) : c ≠ '.' := by
  rintro rfl
  revert letter
  decide

namespace Lexeme

/-- The lexemes that can be found in a text. -/
def Valid : Lexeme → Prop
  | .number digits => IsNumeral digits
  | .name letters => letters ≠ [] ∧ ∀ c ∈ letters, c.isAlpha = true
  | .symbol _ => True

/-- Whether a character right after a lexeme makes it longer: a digit or a first point after a
number, a letter after a name. -/
def GoesOn : Lexeme → Char → Prop
  | .number digits, c => isDecimalDigit c = true ∨ (c = '.' ∧ '.' ∉ digits)
  | .name _, c => c.isAlpha = true
  | .symbol _, _ => False

end Lexeme

/-- Whether no lexeme starts at a character: it is none that a formula has, or a point without a
digit. -/
def Stuck (c : Char) (after : List Char) : Prop :=
  isDecimalDigit c = false ∧ c.isAlpha = false ∧ (∀ s : Symbol, s.char ≠ c) ∧
    (c = '.' → ∀ d ∈ after.head?, isDecimalDigit d = false)

section FirstLexeme

variable {chars rest : List Char} {l l' : Lexeme}

/-- The scanner finds a lexeme where it stands and does not go on. -/
theorem firstLexeme?_eq_some_iff : firstLexeme? chars = some (l, rest) ↔
    l.text ++ rest = chars ∧ l.Valid ∧ ∀ c ∈ rest.head?, ¬ l.GoesOn c := by
  constructor
  · intro found
    refine ⟨(firstLexeme?_append found).1, ?_⟩
    unfold firstLexeme? at found
    split at found
    next split =>
      cases found
      obtain ⟨numeral, stop⟩ := splitNumeral?_eq_some split
      refine ⟨numeral, fun c head => ?_⟩
      obtain ⟨noDigit, noPoint⟩ := stop c head
      rintro (digit | ⟨point, first⟩)
      · cases noDigit.symm.trans digit
      · exact first (noPoint point)
    · split at found
      · cases found
      next c after _ =>
        split at found
        next letter =>
          cases found
          refine ⟨⟨List.cons_ne_nil _ _, List.forall_mem_cons.2 ⟨letter, fun c' member =>
            ?_⟩⟩, fun c' head => ?_⟩
          · exact List.mem_takeWhile_imp member
          · simpa [Lexeme.GoesOn] using head?_dropWhile_stop Char.isAlpha after c' head
        · simp only [Option.map_eq_some_iff, Prod.mk.injEq] at found
          obtain ⟨s, -, rfl, -⟩ := found
          exact ⟨trivial, fun c' _ => id⟩
  · rintro ⟨rfl, valid, stop⟩
    unfold firstLexeme?
    cases l with
    | number digits =>
      have ends : ∀ c ∈ rest.head?, isDecimalDigit c = false ∧
          (c = '.' → '.' ∈ digits) := by
        intro c head
        have other := not_or.1 (stop c head)
        exact ⟨by simpa using other.1, fun point => by_contra fun first =>
          other.2 ⟨point, first⟩⟩
      rw [Lexeme.text, IsNumeral.splitNumeral? valid ends]
    | name letters =>
      obtain ⟨nonempty, all⟩ := valid
      have ends : ∀ c ∈ rest.head?, c.isAlpha = false :=
        fun c head => Bool.eq_false_iff.2 (stop c head)
      cases letters with
      | nil => exact absurd rfl nonempty
      | cons c after =>
        obtain ⟨letter, others⟩ := List.forall_mem_cons.1 all
        -- the scanner tries a number first, and none starts with a letter
        have noNumeral : splitNumeral? (c :: (after ++ rest)) = none :=
          splitNumeral?_eq_none_iff.2 ⟨isDecimalDigit_alpha letter, fun point =>
            absurd point (ne_point_of_isAlpha letter)⟩
        rw [Lexeme.text, List.cons_append, noNumeral]
        dsimp only
        rw [if_pos letter, takeWhile_append_stop others ends, dropWhile_append_stop others ends]
    | symbol s =>
      have noNumeral : splitNumeral? (s.char :: rest) = none :=
        splitNumeral?_eq_none_iff.2 ⟨isDecimalDigit_symbol s, fun point =>
          absurd point (char_ne_point s)⟩
      rw [Lexeme.text, List.singleton_append, noNumeral]
      simp [isAlpha_symbol, ofChar?_char]

private theorem firstLexeme?_eq_none_iff {c : Char} {after : List Char} :
    firstLexeme? (c :: after) = none ↔ Stuck c after := by
  unfold firstLexeme? Stuck
  cases split : splitNumeral? (c :: after) with
  | some found =>
    simp only [reduceCtorEq, false_iff]
    rintro ⟨noDigit, -, -, noPoint⟩
    cases split.symm.trans (splitNumeral?_eq_none_iff.2 ⟨noDigit, noPoint⟩)
  | none =>
    obtain ⟨noDigit, noPoint⟩ := splitNumeral?_eq_none_iff.1 split
    cases letter : c.isAlpha with
    | true => simp [letter]
    | false => simpa [letter, noDigit, ← ofChar?_eq_none] using fun _ => noPoint

/-- What is left of a text may be cut short without a change to what is found first. -/
theorem firstLexeme?_of_shorter {less : List Char} (found : firstLexeme? chars = some (l, rest))
    (shorter : less <+: rest) : firstLexeme? (l.text ++ less) = some (l, less) := by
  obtain ⟨-, valid, stop⟩ := firstLexeme?_eq_some_iff.1 found
  refine firstLexeme?_eq_some_iff.2 ⟨rfl, valid, fun c head => stop c ?_⟩
  obtain ⟨after, rfl⟩ := List.head?_eq_some_iff.1 head
  obtain ⟨more, rfl⟩ := shorter
  rfl

private theorem Stuck.of_shorter {c : Char} {after less : List Char} (stuck : Stuck c after)
    (shorter : less <+: after) :
    Stuck c less := by
  obtain ⟨noDigit, noLetter, noSymbol, noDigits⟩ := stuck
  refine ⟨noDigit, noLetter, noSymbol, fun point d head => noDigits point d ?_⟩
  obtain ⟨others, rfl⟩ := List.head?_eq_some_iff.1 head
  obtain ⟨more, rfl⟩ := shorter
  rfl

end FirstLexeme

/-! ### The longest lexeme -/

private theorem IsNumeral.isDecimalDigit_or_point {digits : List Char} (numeral : IsNumeral digits)
    {c : Char} (member : c ∈ digits) : isDecimalDigit c = true ∨ c = '.' := by
  cases numeral with
  | whole _ _ all => exact .inl (all c member)
  | point before fraction _ all all' =>
    rcases List.mem_append.1 member with inside | inside
    · exact .inl (all c inside)
    · exact (List.mem_cons.1 inside).symm.imp_left (all' c)

private theorem IsNumeral.count_point {digits : List Char} (numeral : IsNumeral digits) :
    digits.count '.' ≤ 1 := by
  cases numeral with
  | whole _ _ all => rw [List.count_eq_zero_of_not_mem (point_notMem all)]; decide
  | point before fraction _ all all' =>
    rw [List.count_append, List.count_cons_self, List.count_eq_zero_of_not_mem (point_notMem all),
      List.count_eq_zero_of_not_mem (point_notMem all')]

/-- Digits and points are no letters. -/
theorem IsNumeral.notMem_of_isAlpha {digits : List Char} (numeral : IsNumeral digits) {c : Char}
    (letter : c.isAlpha = true) : c ∉ digits := fun member => by
  rcases numeral.isDecimalDigit_or_point member with digit | point
  · cases digit.symm.trans (isDecimalDigit_alpha letter)
  · exact ne_point_of_isAlpha letter point

/-- Nor are they symbols. -/
theorem IsNumeral.notMem_symbol {digits : List Char} (numeral : IsNumeral digits) (s : Symbol) :
    s.char ∉ digits := fun member => by
  rcases numeral.isDecimalDigit_or_point member with digit | point
  · cases digit.symm.trans (isDecimalDigit_symbol s)
  · exact char_ne_point s point

namespace Lexeme

variable {l l' : Lexeme}

theorem Valid.text_ne_nil (valid : l.Valid) : l.text ≠ [] := by
  cases l with
  | number digits =>
    cases valid with
    | whole _ some _ => exact some
    | point => simp [text]
  | name letters => exact valid.1
  | symbol s => simp [text]

/-- A lexeme goes on with the character that a longer lexeme has next. -/
theorem goesOn_of_longer (valid : l.Valid) (valid' : l'.Valid) {c : Char} {more : List Char}
    (longer : l'.text = l.text ++ c :: more) : l.GoesOn c := by
  obtain ⟨first, others, start⟩ := List.exists_cons_of_ne_nil valid.text_ne_nil
  have first_mem : first ∈ l.text := start ▸ List.mem_cons_self
  have first_mem' : first ∈ l'.text := longer ▸ List.mem_append_left _ first_mem
  have next_mem : c ∈ l'.text := longer ▸ List.mem_append_right _ List.mem_cons_self
  cases l' with
  | number digits' =>
    cases l with
    | number digits =>
      refine (IsNumeral.isDecimalDigit_or_point valid' next_mem).imp_right fun point =>
        ⟨point, ?_⟩
      -- there is a second point if the next character is one
      subst point
      have points := IsNumeral.count_point valid'
      simp only [text] at longer
      rw [longer, List.count_append, List.count_cons_self] at points
      exact List.count_eq_zero.1 (by omega)
    | name letters =>
      exact absurd first_mem' (IsNumeral.notMem_of_isAlpha valid' (valid.2 first first_mem))
    | symbol s =>
      obtain rfl := List.mem_singleton.1 first_mem
      exact absurd first_mem' (IsNumeral.notMem_symbol valid' s)
  | name letters' =>
    cases l with
    | number digits =>
      exact absurd first_mem (IsNumeral.notMem_of_isAlpha valid (valid'.2 first first_mem'))
    | name letters => exact valid'.2 c next_mem
    | symbol s =>
      obtain rfl := List.mem_singleton.1 first_mem
      cases (valid'.2 s.char first_mem').symm.trans (isAlpha_symbol s)
  | symbol s' =>
    -- a symbol is too short to be the longer one
    rw [start] at longer
    simp [text] at longer

end Lexeme

/-- A lexeme that does not go on is the longest that starts where it does. -/
theorem length_le_of_stops {l l' : Lexeme} (valid : l.Valid) (valid' : l'.Valid) {rest : List Char}
    (stop : ∀ c ∈ rest.head?, ¬ l.GoesOn c) (starts : l'.text <+: l.text ++ rest) :
    l'.text.length ≤ l.text.length := by
  by_contra longer
  obtain ⟨tail, whole⟩ :=
    List.prefix_of_prefix_length_le (List.prefix_append _ _) starts (by omega)
  cases tail with
  | nil => simp [← whole] at longer
  | cons c more =>
    rw [← whole, List.prefix_append_right_inj] at starts
    refine stop c ?_ (Lexeme.goesOn_of_longer valid valid' whole.symm)
    obtain ⟨after, rfl⟩ := starts
    rfl

/-! ### The whole text -/

private theorem scanFrom_lexeme {l : Lexeme} {rest : List Char}
    (found : firstLexeme? (l.text ++ rest) = some (l, rest)) (position : Nat) :
    scanFrom position (l.text ++ rest) =
      (scanFrom (position + l.text.length) rest).map (⟨l, position⟩ :: ·) := by
  obtain ⟨c, after, start⟩ := List.exists_cons_of_ne_nil (firstLexeme?_append found).2
  rw [start, List.cons_append] at found
  rw [start, List.cons_append, scanFrom]
  split
  next found' => cases found.symm.trans found'
  next found' =>
    cases found.symm.trans found'
    rw [start]

private theorem scanFrom_stuck {c : Char} {after : List Char} (stuck : Stuck c after)
    (position : Nat) :
    scanFrom position (c :: after) = .error ⟨.unexpectedCharacter c, some position⟩ := by
  have none := firstLexeme?_eq_none_iff.2 stuck
  rw [scanFrom]
  split
  · rfl
  next found => cases none.symm.trans found

/-- How a text falls into tokens from a position on. -/
inductive Cut : Nat → List Char → List Token → Prop
  | nil (position : Nat) : Cut position [] []
  | cons {position : Nat} {l : Lexeme} {rest : List Char} {tokens : List Token} (valid : l.Valid)
      (stop : ∀ c ∈ rest.head?, ¬ l.GoesOn c)
      (others : Cut (position + l.text.length) rest tokens) :
      Cut position (l.text ++ rest) (⟨l, position⟩ :: tokens)

section Cut

variable {position : Nat} {chars : List Char} {tokens : List Token}

theorem scanFrom_eq_ok_iff :
    scanFrom position chars = .ok tokens ↔ Cut position chars tokens := by
  constructor
  · intro scanned
    induction position, chars using scanFrom.induct generalizing tokens with
    | case1 position =>
      rw [scanFrom] at scanned
      cases scanned
      exact .nil position
    | case2 position c after none =>
      rw [scanFrom_stuck (firstLexeme?_eq_none_iff.1 none)] at scanned
      cases scanned
    | case3 position c after l rest found ih =>
      obtain ⟨whole, valid, stop⟩ := firstLexeme?_eq_some_iff.1 found
      rw [← whole] at found scanned ⊢
      rw [scanFrom_lexeme found, map_eq_ok] at scanned
      obtain ⟨others, scanned, rfl⟩ := scanned
      exact .cons valid stop (ih scanned)
  · intro cut
    induction cut with
    | nil position => rw [scanFrom]
    | cons valid stop others ih =>
      rw [scanFrom_lexeme (firstLexeme?_eq_some_iff.2 ⟨rfl, valid, stop⟩), ih]
      rfl

namespace Cut

theorem whole (cut : Cut position chars tokens) : tokens.flatMap Token.text = chars := by
  induction cut with
  | nil => rfl
  | cons valid stop others ih => rw [List.flatMap_cons, ih]; rfl

theorem valid (cut : Cut position chars tokens) : ∀ t ∈ tokens, t.lexeme.Valid := by
  induction cut with
  | nil => simp
  | cons valid stop others ih => exact List.forall_mem_cons.2 ⟨valid, ih⟩

/-- Tokens start before the text ends. -/
theorem position_lt (cut : Cut position chars tokens) :
    ∀ t ∈ tokens, t.position < position + chars.length := by
  induction cut with
  | nil => simp
  | cons valid stop others ih =>
    have some := List.length_pos_iff.2 valid.text_ne_nil
    simp only [List.length_append]
    refine List.forall_mem_cons.2 ⟨by dsimp only; omega, fun t member => ?_⟩
    have later := ih t member
    omega

/-- What is left after some of the tokens falls into the others. -/
theorem drop {before after : List Token} (cut : Cut position chars (before ++ after)) :
    Cut (position + (before.flatMap Token.text).length) (after.flatMap Token.text) after := by
  induction before generalizing position chars with
  | nil => exact cut.whole ▸ cut
  | cons t before ih =>
    cases cut with
    | cons valid stop others =>
      have left := ih others
      rwa [Nat.add_assoc, ← List.length_append] at left

end Cut

end Cut

/-- Every lexeme is valid, and nothing is lost. -/
theorem scanFrom_valid {position : Nat} {chars : List Char} {tokens : List Token}
    (scanned : scanFrom position chars = .ok tokens) :
    (∀ l ∈ lexemes tokens, l.Valid) ∧ (lexemes tokens).flatMap Lexeme.text = chars := by
  have cut := scanFrom_eq_ok_iff.1 scanned
  refine ⟨List.forall_mem_map.2 cut.valid, ?_⟩
  rw [lexemes, List.flatMap_map]
  exact cut.whole

/-- Tokens that make up a text, in order and with nothing in between, each as long as a lexeme can
be there. -/
structure IsScan (text : List Char) (tokens : List Token) : Prop where
  whole : tokens.flatMap Token.text = text
  valid : ∀ t ∈ tokens, t.lexeme.Valid
  place : ∀ before t after, tokens = before ++ t :: after →
    t.position = (before.flatMap Token.text).length
  longest : ∀ before t after, tokens = before ++ t :: after → ∀ l : Lexeme, l.Valid →
    l.text <+: (t :: after).flatMap Token.text → l.text.length ≤ t.text.length
  names_apart : ∀ before t t' after, tokens = before ++ t :: t' :: after →
    ∀ letters letters', t.lexeme = .name letters → t'.lexeme ≠ .name letters'
  numbers_apart : ∀ before t t' after, tokens = before ++ t :: t' :: after →
    ∀ digits digits', t.lexeme = .number digits → t'.lexeme = .number digits' →
      '.' ∈ digits ∧ digits'.head? = some '.'

namespace Cut

variable {position : Nat} {chars : List Char} {tokens after : List Token} {t : Token}

/-- The first token starts the text and does not go on with the second. -/
theorem head (cut : Cut position chars (t :: after)) :
    t.position = position ∧ ∀ c ∈ (after.flatMap Token.text).head?, ¬ t.lexeme.GoesOn c := by
  cases cut with
  | cons valid stop others => exact ⟨rfl, others.whole.symm ▸ stop⟩

private theorem isScan (cut : Cut 0 chars tokens) : IsScan chars tokens where
  whole := cut.whole
  valid := cut.valid
  place := by
    rintro before t after rfl
    rw [cut.drop.head.1, Nat.zero_add]
  longest := by
    rintro before t after rfl l valid starts
    exact length_le_of_stops (cut.valid t (by simp)) valid cut.drop.head.2 starts
  names_apart := by
    rintro before t t' after rfl letters letters' name name'
    obtain ⟨nonempty, all⟩ : (Lexeme.name letters').Valid := name' ▸ cut.valid t' (by simp)
    obtain ⟨c, others, start⟩ := List.exists_cons_of_ne_nil nonempty
    have apart := cut.drop.head.2 c (by simp [Token.text, name', Lexeme.text, start])
    rw [name] at apart
    exact apart (all c (start ▸ List.mem_cons_self))
  numbers_apart := by
    rintro before t t' after rfl digits digits' number number'
    have valid : (Lexeme.number digits').Valid := number' ▸ cut.valid t' (by simp)
    obtain ⟨c, others, start⟩ : ∃ c others, digits' = c :: others :=
      List.exists_cons_of_ne_nil valid.text_ne_nil
    have apart := cut.drop.head.2 c (by simp [Token.text, number', Lexeme.text, start])
    rw [number] at apart
    obtain ⟨noDigit, first⟩ := not_or.1 apart
    -- what follows a number starts with a digit or a point, and with a digit the number would have
    -- gone on
    obtain rfl :=
      (IsNumeral.isDecimalDigit_or_point valid (start ▸ List.mem_cons_self)).resolve_left noDigit
    exact ⟨by_contra fun none => first ⟨rfl, none⟩, by rw [start]; rfl⟩

end Cut

/-- Where a text is refused, no lexeme starts; what stands before that place is scanned, and nothing
longer. -/
theorem scanFrom_error {position : Nat} {chars : List Char} {m : Mistake}
    (refused : scanFrom position chars = .error m) :
    ∃ before c after, chars = before ++ c :: after ∧
      m = ⟨.unexpectedCharacter c, some (position + before.length)⟩ ∧ Stuck c after ∧
      (∃ tokens, scanFrom position before = .ok tokens) ∧
      ∀ more, more <+: after → ∃ m', scanFrom position (before ++ c :: more) = .error m' := by
  -- along the scanner: a lexeme is found again in front of all prefixes of what follows it
  induction position, chars using scanFrom.induct generalizing m with
  | case1 position =>
    rw [scanFrom] at refused
    cases refused
  | case2 position c after none =>
    have stuck := firstLexeme?_eq_none_iff.1 none
    rw [scanFrom_stuck stuck] at refused
    cases refused
    exact ⟨[], c, after, rfl, rfl, stuck, ⟨[], by rw [scanFrom]⟩,
      fun more shorter => ⟨_, scanFrom_stuck (stuck.of_shorter shorter) position⟩⟩
  | case3 position c after l rest found ih =>
    have whole := (firstLexeme?_eq_some_iff.1 found).1
    rw [← whole] at found refused ⊢
    rw [scanFrom_lexeme found] at refused
    cases later : scanFrom (position + l.text.length) rest with
    | ok others => rw [later] at refused; cases refused
    | error m' =>
      rw [later] at refused
      cases refused
      obtain ⟨before, c', after', rfl, rfl, stuck, ⟨tokens, scanned⟩, all⟩ := ih later
      have again (more : List Char) (shorter : more <+: before ++ c' :: after') :=
        scanFrom_lexeme (firstLexeme?_of_shorter found shorter) position
      refine ⟨l.text ++ before, c', after', by simp, ?_, stuck,
        ⟨⟨l, position⟩ :: tokens, ?_⟩, ?_⟩
      · simp [Nat.add_assoc]
      · rw [again before (List.prefix_append _ _), scanned]
        rfl
      · intro more shorter
        obtain ⟨m'', failed⟩ := all more shorter
        refine ⟨m'', ?_⟩
        rw [List.append_assoc,
          again _ (List.prefix_append_right_inj _ |>.2
          (List.cons_prefix_cons.2 ⟨rfl, shorter⟩)), failed]
        rfl

/-- The characters that formulas have. -/
def InAlphabet (c : Char) : Prop :=
  isDecimalDigit c = true ∨ c = '.' ∨ c.isAlpha = true ∨ ∃ s : Symbol, s.char = c

private theorem stuck_iff {c : Char} {after : List Char} : Stuck c after ↔
    ¬ InAlphabet c ∨ (c = '.' ∧ ∀ d ∈ after.head?, isDecimalDigit d = false) := by
  by_cases point : c = '.'
  · -- a point is no digit, letter or symbol, so what follows decides
    subst point
    have noLetter : '.'.isAlpha = false := by decide
    simp [Stuck, InAlphabet, isDecimalDigit_point, noLetter, char_ne_point]
  · simp [Stuck, InAlphabet, point]

theorem withoutBlanks_of_starts {source before : List Char}
    (starts : before <+: withoutBlanks source) :
    withoutBlanks before = before := by
  refine List.filter_eq_self.2 fun c member => ?_
  exact (List.mem_filter.1 (starts.subset member)).2

/-- A text without its blanks is scanned without loss, each token as long as it can be, or it is
refused at the end of the longest prefix that is scanned, where a character stands that no formula
has, or a point without a digit. -/
theorem scan_lossless (source : List Char) :
    (∃ tokens, scan source = .ok tokens ∧ IsScan (withoutBlanks source) tokens) ∨
    ∃ before c after, withoutBlanks source = before ++ c :: after ∧
      scan source = .error ⟨.unexpectedCharacter c, some before.length⟩ ∧
      (∃ tokens, scan before = .ok tokens) ∧
      (∀ longer tokens, longer <+: withoutBlanks source → scan longer = .ok tokens →
        longer.length ≤ before.length) ∧
      (¬ InAlphabet c ∨ (c = '.' ∧ ∀ d ∈ after.head?, isDecimalDigit d = false)) := by
  cases scanned : scan source with
  | ok tokens => exact .inl ⟨tokens, rfl, (scanFrom_eq_ok_iff.1 scanned).isScan⟩
  | error m =>
    obtain ⟨before, c, after, whole, rfl, stuck, ⟨tokens, prefix_scanned⟩, refused⟩ :=
      scanFrom_error scanned
    have unblank := withoutBlanks_of_starts (⟨c :: after, whole.symm⟩ :
      before <+: withoutBlanks source)
    refine .inr ⟨before, c, after, whole, by rw [Nat.zero_add],
      ⟨tokens, by rw [scan, unblank, prefix_scanned]⟩, fun longer tokens' starts accepted => ?_,
      stuck_iff.1 stuck⟩
    -- a longer prefix has the place where no lexeme starts
    by_contra exceeds
    rw [scan, withoutBlanks_of_starts starts] at accepted
    rw [whole] at starts
    obtain ⟨more, rfl⟩ :=
      List.prefix_of_prefix_length_le (List.prefix_append _ _) starts (by omega)
    rw [List.prefix_append_right_inj] at starts
    cases more with
    | nil => simp at exceeds
    | cons c' more =>
      obtain ⟨rfl, shorter⟩ := List.cons_prefix_cons.1 starts
      obtain ⟨m', failed⟩ := refused more shorter
      cases failed.symm.trans accepted

example :
    scan "1.5.25".toList = .ok [⟨.number "1.5".toList, 0⟩, ⟨.number ".25".toList, 3⟩] := by
  decide +kernel

end CurveBoard
