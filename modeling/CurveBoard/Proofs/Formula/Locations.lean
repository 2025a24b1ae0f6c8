import CurveBoard.Proofs.Formula.Blame

/-!
# Where errors point

What is read has the positions of what has been written. A product sign that has been put in has
one, too, but it is never blamed. So every error of a formula that is refused points at its end, at
one of the tokens that have been written or at the first character that starts none, and its message
is not about what has been put in.
-/
namespace CurveBoard

/-! ### What messages show -/

section Messages

/-- No digit is a star; only what is too large for a digit would be written as one. -/
theorem star_notMem_toDigits {base : Nat} (binary : 1 < base) (hexadecimal : base ≤ 16)
    (n : Nat) :
    '*' ∉ Nat.toDigits base n := by
  have digit : ∀ d < 16, '*' ≠ Nat.digitChar d := by decide
  induction n using Nat.strongRecOn with
  | _ n ih =>
    rw [Nat.toDigits_eq_if binary]
    split
    next small => simpa using digit n (by omega)
    next large =>
      have last := Nat.mod_lt n (by omega : base > 0)
      have others := ih (n / base) (Nat.div_lt_self (by omega) binary)
      simpa [others] using digit (n % base) (by omega)

private theorem star_notMem_hexDigits (width n : Nat) : '*' ∉ hexDigits width n := by
  simp [hexDigits, star_notMem_toDigits (by decide : 1 < 16) le_rfl]

private theorem star_mem_quotedChar {quote c : Char} (member : '*' ∈ quotedChar quote c) :
    c = '*' := by
  have escape : '*' ≠ backslash := by decide
  unfold quotedChar at member
  -- escapes are letters and digits after a backslash, so the star is the character itself
  repeat' split at member
  all_goals simp only [List.mem_cons, List.not_mem_nil, or_false, escape, false_or,
    star_notMem_hexDigits] at member
  all_goals first | exact member.symm | exact absurd member (by decide)

/-- The quotes of a text hold no star that is not in the text. -/
theorem star_mem_quoted {s : String} (member : '*' ∈ (quoted s).toList) : '*' ∈ s.toList := by
  have quote : '*' ≠ quoteFor s.toList := by
    unfold quoteFor
    split <;> decide
  simp only [quoted, String.toList_ofList, List.cons_append, List.mem_cons, quote, false_or,
    List.mem_append, List.mem_flatMap, List.not_mem_nil, or_false] at member
  obtain ⟨c, inside, same⟩ := member
  exact star_mem_quotedChar same ▸ inside

private theorem star_mem_quotedLetters {letters : List Char}
    (member : '*' ∈ (quotedLetters letters).toList) :
    '*' ∈ letters := by
  simpa using star_mem_quoted member

private theorem star_notMem_letters (f : NamedFunction) : '*' ∉ f.letters := by
  cases f with
  | circular inverse hyperbolic ratio => cases inverse <;> cases hyperbolic
    <;> cases ratio <;> decide
  | _ => decide

private theorem star_notMem_wrongCount (f : NamedFunction) (given : Nat) :
    '*' ∉ (Flaw.wrongCount f given).detail.toList := by
  have count (n : Nat) : '*' ∉ n.repr.toList := by
    simpa using star_notMem_toDigits (by decide : 1 < 10) (by decide : 10 ≤ 16) n
  have name : '*' ∉ f.name.toList := by simpa [NamedFunction.name] using star_notMem_letters f
  have words : '*' ∉ "() takes ".toList ∧ '*' ∉ " argument(s), got ".toList ∧
      '*' ∉ "-".toList := by decide
  unfold Flaw.detail
  dsimp only
  split <;> simp only [toString, String.toList_append, List.mem_append, count, name, words,
    or_false, not_false_eq_true]

section

variable {before after word : String}

private theorem star_mem_after (starless : '*' ∉ before.toList)
    (member : '*' ∈ (before ++ word).toList) :
    '*' ∈ word.toList := by
  simpa [String.toList_append, starless] using member

private theorem star_mem_before (starless : '*' ∉ after.toList)
    (member : '*' ∈ (word ++ after).toList) :
    '*' ∈ word.toList := by
  simpa [String.toList_append, starless] using member

end

/-- A message has a star only from the lexeme that it is about. -/
theorem Flaw.star_mem_text {flaw : Flaw} {l : Lexeme} (fits : flaw.Fits l)
    (member : '*' ∈ flaw.detail.toList) :
    '*' ∈ l.text := by
  -- the words around the lexeme have no star in any message
  cases flaw with
  | unbalancedClosing => exact absurd member (by decide)
  | missingLeftOperand text =>
    obtain ⟨-, rfl⟩ := fits
    have quote : '*' ∈ (String.ofList l.text).toList :=
      star_mem_after (by decide) (star_mem_before (by decide) member)
    simpa using quote
  | missingRightOperand => exact absurd member (by decide)
  | unexpectedToken text =>
    obtain rfl := fits
    exact star_mem_quotedLetters (star_mem_after (by decide) member)
  | missingClosing => exact absurd member (by decide)
  | expectedClosing text =>
    obtain rfl := fits
    exact star_mem_quotedLetters (star_mem_after (by decide) member)
  | bareFunction letters =>
    obtain rfl := fits
    exact star_mem_quotedLetters (star_mem_after (by decide) (star_mem_before (by decide) member))
  | notAFunction letters =>
    obtain rfl := fits
    exact star_mem_quotedLetters (star_mem_before (by decide) member)
  | unknownName letters =>
    obtain rfl := fits
    exact star_mem_quotedLetters (star_mem_after (by decide) member)
  | wrongCount f given => exact absurd member (star_notMem_wrongCount f given)
  | _ => cases fits

end Messages

/-! ### Errors of formulas -/

/-- The one lexeme that has a star in it. -/
theorem Lexeme.Valid.eq_star {l : Lexeme} (valid : l.Valid) (member : '*' ∈ l.text) :
    l = .symbol .star := by
  cases l with
  | number digits => exact absurd member (IsNumeral.notMem_symbol valid .star)
  | name letters => cases (isAlpha_symbol .star).symm.trans (valid.2 _ member)
  | symbol s =>
    have same : '*' = s.char := List.mem_singleton.1 member
    revert same
    cases s <;> decide

/-- What an error tells about the text of a formula. Its position is missing if there is no text,
the end of the text if an operand is missing there, and otherwise a place where a token stands or
the first where none does. It shows a star only if that has been written there. -/
structure FormulaError.Locates (e : FormulaError) (chars : List Char) : Prop where
  source : e.source = String.ofList chars
  nowhere : e.position = none ↔ chars = []
  inside : ∀ position, e.position = some position → position ≤ chars.length
  ending : e.position = some chars.length ↔ e.mistake.flaw = .endsEarly
  place : ∀ position, e.position = some position → position ≠ chars.length →
    (∃ tokens, scan chars = .ok tokens ∧ ∃ t ∈ tokens, t.position = position) ∨
    ∃ before c after, chars = before ++ c :: after ∧ position = before.length ∧
      e.mistake.flaw = .unexpectedCharacter c ∧ Stuck c after ∧
      ∃ tokens, scan before = .ok tokens
  star : '*' ∈ e.detail.toList →
    ∃ tokens, scan chars = .ok tokens ∧ ∃ t ∈ tokens, t.lexeme = .symbol .star ∧
    e.position = some t.position

namespace FormulaError

variable {chars : List Char} {tokens : List Token} {m : Mistake}

private theorem locates_empty : Locates ⟨⟨.empty, none⟩, String.ofList []⟩ [] where
  source := rfl
  nowhere := by simp [position]
  inside := by simp [position]
  ending := by simp [position]
  place := by simp [position]
  star member := absurd member (by decide)

/-- A text that cannot be scanned is blamed where the scanner is stuck. -/
theorem locates_scan (refused : scan chars = .error m) (unblank : withoutBlanks chars = chars) :
    Locates ⟨m, String.ofList chars⟩ chars := by
  rw [scan, unblank] at refused
  obtain ⟨before, c, after, rfl, rfl, stuck, ⟨tokens, scanned⟩, -⟩ := scanFrom_error refused
  have unblank' : withoutBlanks before = before :=
    withoutBlanks_of_starts (unblank.symm ▸ List.prefix_append before (c :: after))
  rw [Nat.zero_add]
  exact {
    source := rfl
    nowhere := by simp [position]
    inside := by simp [position]
    ending := by simp [position]
    place := by
      rintro _ ⟨⟩ -
      exact .inr ⟨before, c, after, rfl, rfl, rfl, stuck, tokens,
        by rw [scan, unblank', scanned]⟩
    star := by
      intro member
      exact absurd (List.mem_singleton.1
        (star_mem_quotedLetters (star_mem_after (by decide) member))) (stuck.2.2.1 .star) }

/-- A formula that cannot be read is blamed at one of its tokens, or at its end. -/
theorem locates_blames (scanned : scan chars = .ok tokens) (cut : Cut 0 chars tokens)
    (some : chars ≠ []) (blames : m.Blames chars.length (spelledOut tokens)) :
    Locates ⟨m, String.ofList chars⟩ chars := by
  cases blames with
  | ending =>
    exact {
      source := rfl
      nowhere := by simp [position, some]
      inside := by simp [position]
      ending := by simp [position]
      place := by simp [position]
      star := by
        intro member
        have starless : '*' ∉ Flaw.endsEarly.detail.toList := by decide
        exact absurd member starless }
  | @token t after flaw suffix fits due =>
    obtain ⟨before, split⟩ := suffix
    obtain ⟨o, member, same, origin⟩ := origin_spelledOut split.symm
    have short : o.position < chars.length := Nat.zero_add chars.length ▸ cut.position_lt o member
    rw [← same]
    exact {
      source := rfl
      nowhere := by simp [position, some]
      inside := by
        rintro _ ⟨⟩
        exact short.le
      ending := by
        constructor
        · intro last
          exact absurd (Option.some.inj last) short.ne
        · rintro rfl
          cases fits
      place := by
        rintro _ ⟨⟩ -
        exact .inl ⟨tokens, scanned, o, member, rfl⟩
      star := by
        intro shown
        have star := Flaw.star_mem_text fits shown
        refine ⟨tokens, scanned, o, member, ?_, rfl⟩
        rcases origin with kept | ⟨f, name⟩ | ⟨star, l, last, ends⟩
        · exact (cut.valid o member).eq_star (kept ▸ star)
        · exact absurd (by simpa [name, Lexeme.text] using star) (star_notMem_letters f)
        · -- an operand is due there, so no factor ends in front of it
          obtain ⟨before', split', noFactor⟩ := due star
          obtain rfl := List.append_cancel_right (split.trans split')
          exact absurd ends (noFactor l last) }

end FormulaError

namespace Formula

variable {names : List String} {source : String}

private theorem parse_eq_error {e : FormulaError} (refused : parse names source = .error e) :
    e.source = String.ofList (withoutBlanks source.toList) ∧
      (scan (withoutBlanks source.toList) = .error e.mistake ∨
        ∃ tokens, scan (withoutBlanks source.toList) = .ok tokens ∧
          readTokens ⟨names.map String.toList, (withoutBlanks source.toList).length⟩
            (spelledOut tokens) = .error e.mistake) := by
  unfold parse at refused
  cases scanned : scan (withoutBlanks source.toList) with
  | error m =>
    simp only [scanned, Except.bind] at refused
    cases refused
    exact ⟨rfl, .inl rfl⟩
  | ok tokens =>
    simp only [scanned, Except.bind] at refused
    split at refused
    next m read =>
      cases refused
      exact ⟨rfl, .inr ⟨tokens, rfl, read⟩⟩
    · cases refused

/-- Every formula is read, or refused with an error that points into its text without blanks. -/
theorem parse_located (names : List String) (source : String) :
    (∃ formula, parse names source = .ok formula) ∨
      ∃ e, parse names source = .error e ∧ e.Locates (withoutBlanks source.toList) := by
  cases parsed : parse names source with
  | ok formula => exact .inl ⟨formula, rfl⟩
  | error e =>
    refine .inr ⟨e, rfl, ?_⟩
    obtain ⟨m, stripped⟩ := e
    obtain ⟨rfl, refused | ⟨tokens, scanned, refused⟩⟩ := parse_eq_error parsed
    · exact FormulaError.locates_scan refused (withoutBlanks_of_starts List.prefix_rfl)
    · have cut : Cut 0 (withoutBlanks source.toList) tokens := by
        rwa [scan_withoutBlanks, scan, scanFrom_eq_ok_iff] at scanned
      rcases readTokens_blames refused with ⟨none, rfl⟩ | ⟨some, blames⟩
      · rw [← cut.whole, spelledOut_eq_nil_iff.1 none]
        exact FormulaError.locates_empty
      · refine FormulaError.locates_blames scanned cut (fun none =>
          some (spelledOut_eq_nil_iff.2 ?_)) blames
        refine List.eq_nil_iff_forall_not_mem.2 fun t member => ?_
        have inside := cut.position_lt t member
        simp [none] at inside

end Formula

end CurveBoard
