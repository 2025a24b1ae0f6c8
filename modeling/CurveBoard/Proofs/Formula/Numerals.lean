import CurveBoard.Proofs.Formula.FullSpelling
import CurveBoard.Proofs.Formula.Steadiness
import CurveBoard.Proofs.Reading

/-!
# Numbers as formulas

A text that is read as a number may be a formula as well. A numeral with its sign is a formula for
the same number, and the other forms of a number are hardly ever formulas: underscores between
digits, the words for infinity and NaN and a capital mark before an exponent are in none. What is
left is the small mark, which formulas take for a constant.
-/
namespace CurveBoard

/-! ### Names that a formula may have -/

/-- The words that formulas in the given variables are written with, the short name of the logarithm
among them. -/
def formulaWords (names : List (List Char)) : List (List Char) :=
  names ++ "log".toList :: Constant.pi.letters :: Constant.e.letters ::
    NamedFunction.all.map NamedFunction.letters

/-- Whether a lexeme is no name, or one that a formula in the given variables may have. -/
def Lexeme.Known (names : List (List Char)) (l : Lexeme) : Prop :=
  ∀ letters, l = .name letters → letters ∈ formulaWords names

private theorem Constant.mem_formulaWords (c : Constant) (names : List (List Char)) :
    c.letters ∈ formulaWords names := by
  cases c <;> simp [formulaWords]

private theorem NamedFunction.mem_formulaWords (f : NamedFunction) (names : List (List Char)) :
    f.letters ∈ formulaWords names := by
  have member : f.letters ∈ NamedFunction.all.map NamedFunction.letters :=
    List.mem_map_of_mem f.mem_all
  simp [formulaWords, member]

namespace Derivation

variable {names : List (List Char)}

private theorem known_symbol (s : Symbol) : (Lexeme.symbol s).Known names :=
  fun letters same => by cases same

/-- All names in a derivation are known. -/
theorem known_word {part : Part} (d : Derivation names part) : ∀ l ∈ d.word, l.Known names := by
  induction d with
  | noTerm => simp [word]
  | noFactor => simp [word]
  | sum first others first_known others_known =>
    exact List.forall_mem_append.2 ⟨first_known, others_known⟩
  | product first others first_known others_known =>
    exact List.forall_mem_append.2 ⟨first_known, others_known⟩
  | term negative next others next_known others_known =>
    exact List.forall_mem_cons.2 ⟨known_symbol _,
      List.forall_mem_append.2 ⟨next_known, others_known⟩⟩
  | factor division next others next_known others_known =>
    exact List.forall_mem_cons.2 ⟨known_symbol _,
      List.forall_mem_append.2 ⟨next_known, others_known⟩⟩
  | signed negative operand operand_known =>
    exact List.forall_mem_cons.2 ⟨known_symbol _, operand_known⟩
  | signedExponent negative exponent exponent_known =>
    exact List.forall_mem_cons.2 ⟨known_symbol _, exponent_known⟩
  | unsigned inner inner_known => exact inner_known
  | bare operand operand_known => exact operand_known
  | unsignedExponent power power_known => exact power_known
  | factorial power signs power_known =>
    refine List.forall_mem_append.2 ⟨power_known, fun l member => ?_⟩
    rw [List.eq_of_mem_replicate member]
    exact known_symbol _
  | raised base exponent base_known exponent_known =>
    exact List.forall_mem_append.2 ⟨base_known,
      List.forall_mem_cons.2 ⟨known_symbol _, exponent_known⟩⟩
  | number digits => exact List.forall_mem_singleton.2 fun letters same => by cases same
  | «variable» name known noFunction =>
    refine List.forall_mem_singleton.2 fun letters same => ?_
    cases same
    exact List.mem_append_left _ known
  | constant c unhidden =>
    exact List.forall_mem_singleton.2 fun letters same =>
      Lexeme.name.inj same ▸ c.mem_formulaWords names
  | group inner inner_known =>
    exact List.forall_mem_cons.2 ⟨known_symbol _, List.forall_mem_append.2
      ⟨inner_known, List.forall_mem_singleton.2 (known_symbol _)⟩⟩
  | call f arguments accepted arguments_known =>
    refine List.forall_mem_cons.2 ⟨fun letters same =>
      ?_, List.forall_mem_cons.2 ⟨known_symbol _, arguments_known⟩⟩
    exact Lexeme.name.inj same ▸ f.mem_formulaWords names
  | lastArgument last last_known =>
    exact List.forall_mem_append.2 ⟨last_known, List.forall_mem_singleton.2 (known_symbol _)⟩
  | argument first others first_known others_known =>
    exact List.forall_mem_append.2 ⟨first_known,
      List.forall_mem_cons.2 ⟨known_symbol _, others_known⟩⟩

end Derivation

/-! ### Names that no pass touches -/

section Passes

variable {tokens : List Token} {t : Token} {letters : List Char}

/-- The tokens that mean the inverse are no names. -/
theorem noName_of_inverseSuffix (inside : t ∈ tokens.take (inverseSuffixLength tokens)) :
    t.lexeme ≠ .name letters := by
  intro same
  have member : t.lexeme ∈ lexemes (tokens.take (inverseSuffixLength tokens)) :=
    List.mem_map_of_mem inside
  rcases take_inverseSuffixLength tokens with none | marks
  · simp [none] at inside
  · exact noName_of_mem_inverseMarks marks letters (same ▸ member)

private theorem mem_spellInverses (other : NamedFunction.ofLetters? letters = none)
    (named : t.lexeme = .name letters) (member : t ∈ tokens) : t ∈ spellInverses tokens := by
  induction tokens using spellInverses.induct with
  | case1 => cases member
  | case2 t' rest inverse length suffix found ih =>
    rw [spellInverses]
    simp only [found, suffix]
    rcases List.mem_cons.1 member with rfl | later
    · -- only a function has an inverse
      simp [Token.inverse?, named, other] at found
    · rw [← List.take_append_drop (inverseSuffixLength rest) rest, List.mem_append,
        suffix] at later
      rcases later with dropped | kept
      · exact absurd named (noName_of_inverseSuffix (suffix.symm ▸ dropped))
      · exact List.mem_cons_of_mem _ (ih kept)
  | case3 t' rest kept ih =>
    rw [spellInverses]
    split
    next found suffix => exact (kept _ _ found suffix).elim
    · rcases List.mem_cons.1 member with rfl | later
      · exact List.mem_cons_self
      · exact List.mem_cons_of_mem _ (ih later)

private theorem mem_spellProducts (member : t ∈ tokens) : t ∈ spellProducts tokens := by
  induction tokens using spellProducts.induct with
  | case1 => cases member
  | case2 t' => simpa [spellProducts] using member
  | case3 t' next rest due ih =>
    rw [spellProducts, if_pos due]
    rcases List.mem_cons.1 member with rfl | later
    · exact List.mem_cons_self
    · exact List.mem_cons_of_mem _ (List.mem_cons_of_mem _ (ih later))
  | case4 t' next rest due ih =>
    rw [spellProducts, if_neg due]
    rcases List.mem_cons.1 member with rfl | later
    · exact List.mem_cons_self
    · exact List.mem_cons_of_mem _ (ih later)

/-- A name that is neither a function's nor that of the short logarithm is still there in the full
spelling. -/
theorem mem_spelledOut (other : NamedFunction.ofLetters? letters = none)
    (noLogarithm : letters ≠ "log".toList) (named : t.lexeme = .name letters)
    (member : t ∈ tokens) : t ∈ spelledOut tokens := by
  have same : spellLogarithm t = t := by
    rw [spellLogarithm, if_neg]
    rw [named]
    exact fun same => noLogarithm (Lexeme.name.inj same)
  rw [spelledOut, ← same]
  exact List.mem_map_of_mem (mem_spellProducts (mem_spellInverses other named member))

end Passes

/-! ### Texts that are no formulas -/

namespace Formula

variable {names : List String} {source : String} {formula : Formula}

/-- All names in the text of a formula are known. -/
theorem known_of_parse (parsed : parse names source = .ok formula) :
    ∃ tokens, scan source.toList = .ok tokens ∧ ∀ t ∈ tokens,
      t.lexeme.Known (names.map String.toList) := by
  obtain ⟨tokens, scanned, d, same, -, -⟩ := parse_sound parsed
  refine ⟨tokens, scanned, fun t member letters named => ?_⟩
  cases found : NamedFunction.ofLetters? letters with
  | some f => exact NamedFunction.letters_of_ofLetters? found ▸ f.mem_formulaWords _
  | none =>
    by_cases logarithm : letters = "log".toList
    · exact logarithm ▸ List.mem_append_right _ List.mem_cons_self
    · -- no pass touches the name, so it is in the word of the derivation
      refine d.known_word t.lexeme ?_ letters named
      rw [same]
      exact List.mem_map_of_mem (mem_spelledOut found logarithm named member)

/-- A character of a formula is a digit or a point, a letter of a known word or a symbol. -/
theorem mem_of_parse (parsed : parse names source = .ok formula) {c : Char}
    (member : c ∈ withoutBlanks source.toList) :
    IsNumeric c ∨ (∃ word ∈ formulaWords (names.map String.toList), c ∈ word ∧
      ∀ c ∈ word, c ∈ source.toList ∧ c.isAlpha = true) ∨ ∃ s : Symbol, c = s.char := by
  obtain ⟨tokens, scanned, known⟩ := known_of_parse parsed
  obtain ⟨valid, whole⟩ := scanFrom_valid scanned
  rw [← whole] at member
  obtain ⟨l, inside, in_text⟩ := List.mem_flatMap.1 member
  have text_in_source : ∀ c ∈ l.text, c ∈ source.toList := fun c found =>
    (List.mem_filter.1 (whole ▸ List.mem_flatMap.2 ⟨l, inside, found⟩ :
      c ∈ withoutBlanks source.toList)).1
  cases l with
  | number digits => exact .inl (IsNumeral.isNumeric (valid _ inside) c in_text)
  | name letters =>
    obtain ⟨t, member, named⟩ := List.mem_map.1 inside
    exact .inr (.inl ⟨letters, known t member letters named, in_text,
      fun c found => ⟨text_in_source c found, (valid _ inside).2 c found⟩⟩)
  | symbol s => exact .inr (.inr ⟨s, List.mem_singleton.1 in_text⟩)

/-- A text with letters of some kind only is no formula if every word has a letter of another
kind. -/
theorem parse_ne_ok_of_letters (p : Char → Bool)
    (other : ∀ word ∈ formulaWords (names.map String.toList), word.all p = false) {c : Char}
    (found : c ∈ source.toList) (letter : c.isAlpha = true)
    (all : ∀ c ∈ source.toList, c.isAlpha = true → p c = true) :
    parse names source ≠ .ok formula := by
  intro parsed
  have kept : c ∈ withoutBlanks source.toList :=
    List.mem_filter.2 ⟨found, by simp [isBlank_alpha letter]⟩
  rcases mem_of_parse parsed kept with numeric | ⟨word, known, -, inside⟩ | ⟨s, rfl⟩
  · cases numeric.isAlpha.symm.trans letter
  · have all_letters : word.all p = true :=
      List.all_eq_true.2 fun c member => all c (inside c member).1 (inside c member).2
    cases (other word known).symm.trans all_letters
  · cases (isAlpha_symbol s).symm.trans letter

/-- No formula has an underscore. -/
theorem noUnderscore_of_parse (parsed : parse names source = .ok formula) :
    '_' ∉ withoutBlanks source.toList := by
  intro found
  rcases mem_of_parse parsed found with numeric | ⟨word, -, member, inside⟩ | ⟨s, same⟩
  · rcases numeric with digit | same | same | same
    · revert digit
      decide
    all_goals cases same
  · cases (inside '_' member).2
  · cases s <;> cases same

end Formula

/-! ### Texts that are numerals -/

/-- A numeral with its sign as a formula. -/
def Derivation.ofNumeral {names : List (List Char)} (sign : Option Bool) (digits : List Char) :
    Derivation names .sum :=
  .ofSigned (sign.elim (.ofOperand (.number digits)) fun negative =>
    .signed negative (.ofOperand (.number digits)))

section Numerals

variable {names : List (List Char)} {sign : Option Bool} {digits : List Char}

private theorem Derivation.text_ofNumeral :
    (ofNumeral sign digits : Derivation names .sum).text = signText sign ++ digits := by
  cases sign with
  | none => rw [ofNumeral, text_ofSigned]; rfl
  | some negative => rw [ofNumeral, text_ofSigned]; rfl

private theorem Derivation.tree_ofNumeral : (ofNumeral sign digits : Derivation names .sum).tree =
    sign.elim (.number (numeralValue digits)) fun negative =>
      .signed negative (.number (numeralValue digits)) := by
  cases sign <;> rfl

private theorem Derivation.mem_word_ofNumeral {l : Lexeme}
    (member : l ∈ (ofNumeral sign digits : Derivation names .sum).word) :
    l = .number digits ∨ ∃ s : Symbol, l = .symbol s := by
  cases sign with
  | none => simp_all [ofNumeral, word]
  | some negative =>
    have either : l = .symbol (.ofSign negative) ∨ l = .number digits := by
      simpa [ofNumeral, word] using member
    exact either.symm.imp_right fun same => ⟨_, same⟩

private theorem Derivation.inFull_ofNumeral :
    (ofNumeral sign digits : Derivation names .sum).inFull = ofNumeral sign digits := by
  cases sign <;> rfl

theorem IsNumeral.lasting (numeral : IsNumeral digits) : (Lexeme.number digits).Lasting := by
  refine ⟨numeral, List.any_eq_false.2 fun c member => ?_, by simp⟩
  simp [(numeral.isNumeric c member).isBlank]

end Numerals

namespace Formula

variable {names : List String} {source : String}

private theorem parse_ofNumeral (names : List String) {sign : Option Bool} {digits : List Char}
    (numeral : IsNumeral digits) (written : source.toList = signText sign ++ digits) :
    ∃ formula, parse names source = .ok formula ∧
      formula.tree = (Derivation.ofNumeral sign digits :
        Derivation (names.map String.toList) .sum).tree := by
  obtain ⟨-, tokens, scanned, spelled, same⟩ :=
    scan_text (Derivation.ofNumeral sign digits : Derivation (names.map String.toList) .sum)
      fun l member => by
      rcases Derivation.mem_word_ofNumeral member with rfl | ⟨s, rfl⟩
      · exact numeral.lasting
      · exact lasting_symbol s
  rw [Derivation.text_ofNumeral, ← written] at scanned
  rw [Derivation.inFull_ofNumeral] at same
  exact ⟨_, parse_of_derivation _ scanned (by rw [spelled, same]), rfl⟩

/-- No word for infinity or NaN is a formula. -/
theorem parse_word_ne_ok {sign : Option Bool} {letters : List Char}
    (known : letters.map Char.toLower ∈ numberWords)
    (written : source.toList = signText sign ++ letters) {formula : Formula} :
    parse ["x"] source ≠ .ok formula := by
  -- no word of formulas has the letters of such a word only
  have other : ∀ word ∈ numberWords, word ≠ [] ∧ ∀ word' ∈ formulaWords ["x".toList],
      word'.all (fun c => word.contains c.toLower) = false := by decide
  obtain ⟨some, apart⟩ := other _ known
  obtain ⟨c, member⟩ := List.exists_mem_of_ne_nil letters fun none =>
    some (by rw [none, List.map_nil])
  refine parse_ne_ok_of_letters _ apart (c :=
    c) ?_ (isAlpha_of_word known c member) fun c found letter => ?_
  · rw [written]
    exact List.mem_append_right _ member
  · rw [written] at found
    rcases List.mem_append.1 found with signs | inside
    · cases (isNumeric_signText sign c signs).isAlpha.symm.trans letter
    · exact List.contains_iff_mem.2 (List.mem_map_of_mem inside)

/-- A number with an exponent is no formula if its mark is a capital letter. -/
theorem parse_scientific_ne_ok {sign : Option Bool} {before after : List Char}
    (others : ∀ c ∈ before ++ after, IsNumeric c)
    (written : source.toList = signText sign ++ (before ++ 'E' :: after)) {formula : Formula} :
    parse ["x"] source ≠ .ok formula := by
  refine parse_ne_ok_of_letters (· == 'E') (by decide) (c := 'E') (by simp [written]) (by decide)
    fun c found letter => ?_
  have place : c = 'E' ∨ c ∈ signText sign ++ (before ++ after) := by
    have moved :
        (signText sign ++ (before ++ 'E' :: after)).Perm
        ('E' :: (signText sign ++ (before ++ after))) :=
      (List.perm_middle.append_left _).trans List.perm_middle
    exact List.mem_cons.1 (moved.mem_iff.1 (written ▸ found))
  rcases place with rfl | inside
  · rfl
  · have numeric := List.forall_mem_append.2 ⟨isNumeric_signText sign, others⟩
    cases (numeric c inside).isAlpha.symm.trans letter

/-- A text that is read as a number and as a formula has no underscores. -/
theorem exists_spelling_of_parse {x : Float} {formula : Formula}
    (accepted : readFloat? source.toList = some x) (parsed : parse names source = .ok formula) :
    ∃ sign magnitude,
      trimBlanks source.toList = signText sign ++ magnitude ∧
      IsMagnitude (sign.getD false) x magnitude := by
  refine exists_spelling accepted fun found => noUnderscore_of_parse parsed ?_
  exact List.mem_filter.2 ⟨mem_of_mem_trimBlanks found, by decide⟩

/-- A text that is read as a number without an exponent is the same number as a formula. -/
theorem value_of_readFloat? {x : Float} {formula : Formula}
    (accepted : readFloat? source.toList = some x) (unmarked : 'e' ∉ source.toList)
    (parsed : parse ["x"] source = .ok formula) :
    formula.tree.isConstant = true ∧ ∀ dice input,
      formula.tree.evaluate? dice input = some (.single x) := by
  obtain ⟨sign, magnitude, written, form⟩ := exists_spelling_of_parse accepted parsed
  rw [← parse_trimBlanks] at parsed
  have whole : (String.ofList (trimBlanks source.toList)).toList = signText sign ++ magnitude := by
    rw [String.toList_ofList, written]
  cases form with
  | numeral digits numeral value =>
    obtain ⟨found, read, tree⟩ := parse_ofNumeral ["x"] numeral whole
    cases read.symm.trans parsed
    rw [tree, value, Derivation.tree_ofNumeral]
    rcases sign with _ | _ | _
    all_goals exact ⟨by simp [Tree.isConstant, Tree.names],
      fun dice input => by simp [Tree.evaluate?, Nested.map]⟩
  | scientific before mark after marked others =>
    rcases marked with rfl | rfl
    · refine absurd (mem_of_mem_trimBlanks ?_) unmarked
      rw [written]
      simp
    · exact absurd parsed (parse_scientific_ne_ok others whole)
  | word letters known => exact absurd parsed (parse_word_ne_ok known whole)

end Formula

/-- A text that is read as a number calls no random function. -/
theorem steadyText_of_readFloat? {source : String} {x : Float}
    (accepted : readFloat? source.toList = some x) :
    SteadyText source := by
  intro name formula parsed
  obtain ⟨sign, magnitude, written, form⟩ := Formula.exists_spelling_of_parse accepted parsed
  -- the letter that every random function has is in no spelling of a number
  have signs : 'r' ∉ signText sign := by
    rcases sign with _ | _ | _ <;> decide
  have unsigned : 'r' ∉ magnitude := by
    intro found
    cases form with
    | numeral digits numeral value => cases (numeral.isNumeric 'r' found).isAlpha
    | scientific before mark after marked others =>
      have moved := List.mem_cons.1 (List.perm_middle.mem_iff.1 found)
      rcases moved with rfl | other
      · revert marked
        decide
      · cases (others 'r' other).isAlpha
    | word letters known =>
      have missing : ∀ word ∈ numberWords, 'r' ∉ word := by decide
      exact missing _ known (List.mem_map_of_mem (f := Char.toLower) found)
  have steady : SteadyText (String.ofList (trimBlanks source.toList)) := by
    refine steadyText_of_notMem ?_
    rw [String.toList_ofList, written]
    exact fun found => (List.mem_append.1 found).elim signs unsigned
  exact steady name formula (by rw [Formula.parse_trimBlanks, parsed])

end CurveBoard
