import CurveBoard.Proofs.Except
import CurveBoard.Proofs.Formula.Soundness

/-!
# What is derived is read

On the word of a derivation a reader succeeds, provided that what follows does not go on with the
part it reads, and hands back the derivation's tree and text. The proof is an induction on the
derivation. With the converse and unambiguity this settles what the reader accepts and what it makes
of it.
-/
namespace CurveBoard

namespace Takes

variable {l : Lexeme} {word word' : List Lexeme} {tokens rest : List Token}

private theorem of_nil (takes : Takes [] tokens rest) : tokens = rest := by
  obtain ⟨taken, rfl, none⟩ := takes
  rw [List.map_eq_nil_iff.1 none, List.nil_append]

theorem uncons (takes : Takes (l :: word) tokens rest) :
    ∃ t after, tokens = t :: after ∧ t.lexeme = l ∧ Takes word after rest := by
  obtain ⟨taken, rfl, same⟩ := takes
  obtain ⟨t, after, rfl, head, tail⟩ := List.map_eq_cons_iff.1 same
  exact ⟨t, after ++ rest, rfl, head, after, rfl, tail⟩

theorem split (takes : Takes (word ++ word') tokens rest) :
    ∃ middle, Takes word tokens middle ∧ Takes word' middle rest := by
  obtain ⟨taken, rfl, same⟩ := takes
  obtain ⟨first, second, rfl, first_word, second_word⟩ := List.map_eq_append_iff.1 same
  exact ⟨second ++ rest, ⟨first, by simp, first_word⟩, second, rfl, second_word⟩

private theorem lexemes_eq (takes : Takes word tokens rest) :
    lexemes tokens = word ++ lexemes rest := by
  obtain ⟨taken, rfl, rfl⟩ := takes
  exact List.map_append

end Takes

/-- A result that is as told. -/
def Gives {bound : Nat} (x : Except Mistake (Parsed bound)) (tree : Tree) (text : List Char)
    (rest : List Token) : Prop :=
  ∃ shorter, x = .ok ⟨tree, text, rest, shorter⟩

/-- The same for arguments. -/
def Arguments.Gives {bound : Nat} (x : Except Mistake (Arguments bound)) (trees : List Tree)
    (text : List Char) (rest : List Token) : Prop :=
  ∃ texts shorter, x = .ok ⟨trees, texts, rest, shorter⟩ ∧ texts ≠ [] ∧
    List.intercalate [','] texts ++ [')'] = text

namespace Token

variable {t : Token}

private theorem sign?_ofSign {negative : Bool} (sign : t.lexeme = .symbol (.ofSign negative)) :
    t.sign? = some negative := by
  cases negative <;> simp [sign?, sign, Symbol.ofSign]

private theorem sign?_eq_none (operand : t.lexeme.StartsOperand) : t.sign? = none := by
  cases found : t.sign? with
  | none => rfl
  | some negative =>
    rw [sign?_eq_some found] at operand
    exact absurd operand (Derivation.not_startsOperand_ofSign negative)

private theorem additive?_ofSign {negative : Bool} (sign : t.lexeme = .symbol (.ofSign negative)) :
    t.additive? = some (.ofSign negative) := by
  cases negative <;> simp [additive?, sign, Symbol.ofSign, Operation.ofSign]

private theorem additive?_eq_none {after : List Token} (ends : Ends 4 (lexemes (t :: after))) :
    t.additive? = none := by
  cases found : t.additive? with
  | none => rfl
  | some operation =>
    obtain ⟨negative, sign, -⟩ := additive?_eq_some found
    simp [Ends, sign] at ends

private theorem multiplicative?_ofDivision {division : Bool}
    (sign : t.lexeme = .symbol (.ofDivision division)) :
    t.multiplicative? = some (.ofDivision division) := by
  cases division <;> simp [multiplicative?, sign, Symbol.ofDivision, Operation.ofDivision]

private theorem multiplicative?_eq_none {after : List Token}
    (ends : Ends 3 (lexemes (t :: after))) :
    t.multiplicative? = none := by
  cases found : t.multiplicative? with
  | none => rfl
  | some operation =>
    obtain ⟨division, sign, -⟩ := multiplicative?_eq_some found
    simp [Ends, sign] at ends

private theorem not_isSymbol {s : Symbol} {after : List Token}
    (ends : Ends s.looseness (lexemes (t :: after))) :
    ¬ t.isSymbol s = true := by
  intro same
  simp [Ends, isSymbol_iff.1 same] at ends

private theorem startsExponent_ofSign {negative : Bool}
    (sign : t.lexeme = .symbol (.ofSign negative)) :
    t.startsExponent = true := by
  cases negative <;> simp [startsExponent, sign, Symbol.ofSign]

private theorem startsExponent_operand (operand : t.lexeme.StartsOperand) :
    t.startsExponent = true := by
  unfold startsExponent
  split
  next s symbol =>
    rw [symbol] at operand
    rw [show s = .opening from operand]
    rfl
  · rfl

end Token

private theorem closed_complete (opener : Token) {t : Token} (rest : List Token)
    (closing : t.lexeme = .symbol .closing) :
    closed opener (t :: rest) = .ok ⟨rest, Nat.lt_succ_self _⟩ := by
  rw [closed, if_pos (Token.isSymbol_iff.2 closing)]

private theorem factorialSigns_complete {signs : Nat} {tokens rest : List Token} (tree : Tree)
    (text : List Char) (takes : Takes (List.replicate signs (.symbol .bang)) tokens rest)
    (ends : Ends 2 (lexemes rest)) :
    ∃ shorter, factorialSigns tree text tokens =
      ⟨(fun t => .call .factorial [t])^[signs] tree,
        (fun t => callText .factorial [t])^[signs] text, rest, shorter⟩ := by
  induction signs generalizing tree text tokens with
  | zero =>
    -- no sign is left, and what follows is none
    obtain rfl := takes.of_nil
    cases tokens with
    | nil => exact ⟨_, rfl⟩
    | cons t after =>
      rw [factorialSigns, if_neg (Token.not_isSymbol (s := .bang) ends)]
      exact ⟨_, rfl⟩
  | succ signs ih =>
    obtain ⟨t, after, rfl, bang, takes⟩ := takes.uncons
    obtain ⟨shorter, read⟩ := ih (.call .factorial [tree]) (callText .factorial [text]) takes
    rw [factorialSigns, if_pos (Token.isSymbol_iff.2 bang), read]
    exact ⟨_, rfl⟩

theorem Constant.ofLetters?_letters (c : Constant) : ofLetters? c.letters = some c := by
  cases c <;> decide

namespace Derivation

variable {names : List (List Char)}

/-- A part that starts a formula does not start with a closing parenthesis. -/
theorem word_signed (d : Derivation names .signed) :
    ∃ l rest, d.word = l :: rest ∧ l ≠ .symbol .closing := by
  cases d with
  | signed negative operand => exact ⟨_, _, rfl, by cases negative <;> simp [Symbol.ofSign]⟩
  | unsigned inner =>
    obtain ⟨l, rest, start, operand⟩ := inner.word_factorial
    refine ⟨l, rest, start, ?_⟩
    rintro rfl
    cases operand

private theorem word_sum (d : Derivation names .sum) :
    ∃ l rest, d.word = l :: rest ∧ l ≠ .symbol .closing := by
  cases d with
  | sum product terms =>
    cases product with
    | product first factors =>
      obtain ⟨l, rest, start, other⟩ := first.word_signed
      exact ⟨l, _, by rw [word, word, start]; rfl, other⟩

private theorem word_arguments {count : Nat} (d : Derivation names (.arguments count)) :
    ∃ l rest, d.word = l :: rest ∧ l ≠ .symbol .closing := by
  cases d with
  | lastArgument last =>
    obtain ⟨l, rest, start, other⟩ := last.word_sum
    exact ⟨l, _, by rw [word, start]; rfl, other⟩
  | argument first others =>
    obtain ⟨l, rest, start, other⟩ := first.word_sum
    exact ⟨l, _, by rw [word, start]; rfl, other⟩

private theorem length_tree :
    {count : Nat} → (d : Derivation names (.arguments count)) → d.tree.length = count
  | _, lastArgument _ => rfl
  | _, argument _ others => congrArg Nat.succ others.length_tree

end Derivation

variable {scope : Scope}

/-- What ends an operand does not call it. -/
theorem not_called {rest : List Token} (ends : Ends 0 (lexemes rest)) :
    rest.head?.any (Token.isSymbol · .opening) = false := by
  cases rest with
  | nil => rfl
  | cons t after => exact Bool.eq_false_iff.2 (Token.not_isSymbol (s := .opening) ends)

/-- Arguments that do not start with a closing parenthesis are not missing. -/
theorem readArguments_cons {t : Token} (opener : Token) (after : List Token)
    (other : t.lexeme ≠ .symbol .closing) :
    readArguments scope opener (t :: after) = readFirstArgument scope opener (t :: after) := by
  rw [readArguments, if_neg (mt Token.isSymbol_iff.1 other)]

/-- What its reader makes of a part that is derived. -/
def Derivation.IsRead : {part : Part} → Derivation scope.variableNames part → Prop
  | .sum, d => ∀ tokens rest, Takes d.word tokens rest → Ends 4 (lexemes rest) →
    Gives (readSum scope tokens) d.tree d.text rest
  | .terms, d => ∀ tree text tokens rest, Takes d.word tokens rest → Ends 4 (lexemes rest) →
    Gives (readTerms scope tree text tokens) (d.tree tree) (text ++ d.text) rest
  | .product, d => ∀ tokens rest, Takes d.word tokens rest → Ends 3 (lexemes rest) →
    Gives (readProduct scope tokens) d.tree d.text rest
  | .factors, d => ∀ tree text tokens rest, Takes d.word tokens rest → Ends 3 (lexemes rest) →
    Gives (readFactors scope tree text tokens) (d.tree tree) (text ++ d.text) rest
  | .signed, d => ∀ tokens rest, Takes d.word tokens rest → Ends 2 (lexemes rest) →
    Gives (readSigned scope tokens) d.tree d.text rest
  | .factorial, d => ∀ tokens rest, Takes d.word tokens rest → Ends 2 (lexemes rest) →
    Gives (readSigned scope tokens) d.tree d.text rest
  | .power, d => ∀ tokens rest, Takes d.word tokens rest → Ends 1 (lexemes rest) →
    Gives (readPower scope tokens) d.tree d.text rest
  | .exponent, d => ∀ caret tokens rest, Takes d.word tokens rest → Ends 1 (lexemes rest) →
    Gives (readExponent scope caret tokens) d.tree d.text rest
  | .operand, d => ∀ tokens rest, Takes d.word tokens rest → Ends 0 (lexemes rest) →
    Gives (readOperand scope tokens) d.tree d.text rest
  | .arguments _, d => ∀ opener tokens rest, Takes d.word tokens rest →
    Arguments.Gives (readFirstArgument scope opener tokens) d.tree d.text rest

private theorem Derivation.isRead {part : Part} (d : Derivation scope.variableNames part) :
    d.IsRead := by
  -- The readers decide by the next token only, so each case needs to know what the parts start with
  -- and what follows them.
  induction d with
  | sum first others first_read others_read =>
    intro tokens rest takes ends
    obtain ⟨middle, first_takes, others_takes⟩ := takes.split
    obtain ⟨shorter, read⟩ := first_read tokens middle first_takes
      (others_takes.lexemes_eq ▸ others.ends_terms ends)
    obtain ⟨shorter', read'⟩ := others_read first.tree first.text middle rest others_takes ends
    simp only [readSum, read, read']
    exact ⟨_, rfl⟩
  | noTerm =>
    intro tree text tokens rest takes ends
    obtain rfl := takes.of_nil
    rw [Derivation.text, List.append_nil]
    cases tokens with
    | nil =>
      rw [readTerms]
      exact ⟨_, rfl⟩
    | cons t after =>
      simp only [readTerms, Token.additive?_eq_none ends]
      exact ⟨_, rfl⟩
  | term negative next others next_read others_read =>
    intro tree text tokens rest takes ends
    obtain ⟨t, after, rfl, sign, takes⟩ := takes.uncons
    obtain ⟨middle, next_takes, others_takes⟩ := takes.split
    obtain ⟨shorter, read⟩ := next_read after middle next_takes
      (others_takes.lexemes_eq ▸ others.ends_terms ends)
    obtain ⟨shorter', read'⟩ := others_read (.binary (.ofSign negative) tree next.tree)
      (text ++ t.text ++ next.text) middle rest others_takes ends
    rw [Token.text_symbol sign] at read'
    -- the rest was read from fewer tokens, so its bound is the smaller one
    simp only [readTerms, Token.additive?_ofSign sign, read, Token.text_symbol sign, read']
    refine ⟨Nat.lt_of_lt_of_le shorter' (by simp only [List.length_cons]; omega), ?_⟩
    simp [Parsed.within, Derivation.tree, Derivation.text]
  | product first others first_read others_read =>
    intro tokens rest takes ends
    obtain ⟨middle, first_takes, others_takes⟩ := takes.split
    obtain ⟨shorter, read⟩ := first_read tokens middle first_takes
      (others_takes.lexemes_eq ▸ others.ends_factors ends)
    obtain ⟨shorter', read'⟩ := others_read first.tree first.text middle rest others_takes ends
    simp only [readProduct, read, read']
    exact ⟨_, rfl⟩
  | noFactor =>
    intro tree text tokens rest takes ends
    obtain rfl := takes.of_nil
    rw [Derivation.text, List.append_nil]
    cases tokens with
    | nil =>
      rw [readFactors]
      exact ⟨_, rfl⟩
    | cons t after =>
      simp only [readFactors, Token.multiplicative?_eq_none ends]
      exact ⟨_, rfl⟩
  | factor division next others next_read others_read =>
    intro tree text tokens rest takes ends
    obtain ⟨t, after, rfl, sign, takes⟩ := takes.uncons
    obtain ⟨middle, next_takes, others_takes⟩ := takes.split
    obtain ⟨shorter, read⟩ := next_read after middle next_takes
      (others_takes.lexemes_eq ▸ others.ends_factors ends)
    obtain ⟨shorter', read'⟩ := others_read (.binary (.ofDivision division) tree next.tree)
      (text ++ t.text ++ next.text) middle rest others_takes ends
    rw [Token.text_symbol sign] at read'
    simp only [readFactors, Token.multiplicative?_ofDivision sign, read,
      Token.text_symbol sign, read']
    refine ⟨Nat.lt_of_lt_of_le shorter' (by simp only [List.length_cons]; omega), ?_⟩
    simp [Parsed.within, Derivation.tree, Derivation.text]
  | signed negative operand operand_read =>
    intro tokens rest takes ends
    obtain ⟨t, after, rfl, sign, takes⟩ := takes.uncons
    obtain ⟨shorter, read⟩ := operand_read after rest takes ends
    simp only [readSigned, Token.sign?_ofSign sign, read, Token.text_symbol sign]
    exact ⟨_, rfl⟩
  | unsigned inner inner_read =>
    intro tokens rest takes ends
    exact inner_read tokens rest takes ends
  | factorial power signs power_read =>
    intro tokens rest takes ends
    -- a power starts with an operand, so no sign is read in front of it
    obtain ⟨l, others, start, operand⟩ := power.word_power
    obtain ⟨middle, power_takes, signs_take⟩ := takes.split
    obtain ⟨t, after, rfl, head, -⟩ := (start ▸ power_takes).uncons
    obtain ⟨shorter, read⟩ := power_read (t :: after) middle power_takes
      (signs_take.lexemes_eq ▸ Derivation.ends_factorialSigns signs ends)
    obtain ⟨shorter', read'⟩ := factorialSigns_complete power.tree power.text signs_take ends
    simp only [readSigned, Token.sign?_eq_none (head ▸ operand), read, read']
    exact ⟨_, rfl⟩
  | bare operand operand_read =>
    intro tokens rest takes ends
    obtain ⟨shorter, read⟩ := operand_read tokens rest takes (ends.mono (by decide))
    simp only [readPower, read]
    cases rest with
    | nil => exact ⟨_, rfl⟩
    | cons t after =>
      simp only [Token.not_isSymbol (s := .caret) ends]
      exact ⟨_, rfl⟩
  | raised base exponent base_read exponent_read =>
    intro tokens rest takes ends
    obtain ⟨middle, base_takes, takes⟩ := takes.split
    obtain ⟨t, after, rfl, caret, takes⟩ := takes.uncons
    obtain ⟨shorter, read⟩ :=
      base_read tokens (t :: after) base_takes (by simp [caret, ends_caret])
    obtain ⟨shorter', read'⟩ := exponent_read t after rest takes ends
    simp only [readPower, read, Token.isSymbol_iff.2 caret, read']
    exact ⟨_, rfl⟩
  | signedExponent negative exponent exponent_read =>
    intro caret tokens rest takes ends
    obtain ⟨t, after, rfl, sign, takes⟩ := takes.uncons
    obtain ⟨shorter, read⟩ := exponent_read caret after rest takes ends
    simp only [readExponent, Token.startsExponent_ofSign sign, Token.sign?_ofSign sign, read,
      Token.text_symbol sign]
    exact ⟨_, rfl⟩
  | unsignedExponent power power_read =>
    intro caret tokens rest takes ends
    obtain ⟨l, others, start, operand⟩ := power.word_power
    obtain ⟨t, after, rfl, head, -⟩ := (start ▸ takes).uncons
    obtain ⟨shorter, read⟩ := power_read (t :: after) rest takes ends
    simp only [readExponent, Token.startsExponent_operand (head ▸ operand),
      Token.sign?_eq_none (head ▸ operand), read]
    exact ⟨_, rfl⟩
  | number digits =>
    intro tokens rest takes ends
    obtain ⟨t, after, rfl, numeral, takes⟩ := takes.uncons
    obtain rfl := takes.of_nil
    simp only [readOperand, numeral]
    exact ⟨_, rfl⟩
  | «variable» name known noFunction =>
    intro tokens rest takes ends
    obtain ⟨t, after, rfl, head, takes⟩ := takes.uncons
    obtain rfl := takes.of_nil
    have named : namedOperand scope name t.position = .ok (.free name) := by
      rw [namedOperand, if_pos (by simpa using known)]
    simp only [readOperand_noFunction scope head noFunction, not_called ends, named]
    exact ⟨_, rfl⟩
  | constant c unhidden =>
    intro tokens rest takes ends
    obtain ⟨t, after, rfl, head, takes⟩ := takes.uncons
    obtain rfl := takes.of_nil
    have named : namedOperand scope c.letters t.position = .ok (.constant c) := by
      rw [namedOperand, if_neg (by simpa using unhidden), c.ofLetters?_letters]
    simp only [readOperand_noFunction scope head c.noFunction, not_called ends, named]
    exact ⟨_, rfl⟩
  | group inner inner_read =>
    intro tokens rest takes ends
    obtain ⟨t, after, rfl, opening, takes⟩ := takes.uncons
    obtain ⟨middle, inner_takes, closing_takes⟩ := takes.split
    obtain ⟨t', after', rfl, closing, nothing⟩ := closing_takes.uncons
    obtain rfl := nothing.of_nil
    obtain ⟨shorter, read⟩ :=
      inner_read after (t' :: after') inner_takes (by simp [closing, ends_closing])
    simp only [readOperand, opening, read, closed_complete t after' closing]
    exact ⟨_, rfl⟩
  | @call f count arguments accepted arguments_read =>
    intro tokens rest takes ends
    obtain ⟨t, after, rfl, name, takes⟩ := takes.uncons
    obtain ⟨next, inside, rfl, opening, takes⟩ := takes.uncons
    -- the arguments do not start with the closing parenthesis of a call without arguments
    obtain ⟨l, others, start, other⟩ := arguments.word_arguments
    obtain ⟨t', inside', rfl, head, -⟩ := (start ▸ takes).uncons
    obtain ⟨texts, shorter, read, -, text_eq⟩ := arguments_read next (t' :: inside') rest takes
    simp only [readOperand, name, f.ofLetters?_letters, Token.isSymbol_iff.2 opening,
      readArguments_cons next inside' (head ▸ other), read, arguments.length_tree, accepted]
    refine ⟨by simp only [List.length_cons] at shorter ⊢; omega, ?_⟩
    simp [callText, text_eq, Derivation.text, Derivation.tree]
  | lastArgument last last_read =>
    intro opener tokens rest takes
    obtain ⟨middle, last_takes, closing_takes⟩ := takes.split
    obtain ⟨t, after, rfl, closing, nothing⟩ := closing_takes.uncons
    obtain rfl := nothing.of_nil
    obtain ⟨shorter, read⟩ :=
      last_read tokens (t :: after) last_takes (by simp [closing, ends_closing])
    obtain ⟨lexeme, position⟩ := t
    obtain rfl : lexeme = .symbol .closing := closing
    rw [readFirstArgument, read]
    exact ⟨[last.text], _, rfl, by simp, by simp [Derivation.text]⟩
  | argument first others first_read others_read =>
    intro opener tokens rest takes
    obtain ⟨middle, first_takes, takes⟩ := takes.split
    obtain ⟨t, after, rfl, comma, takes⟩ := takes.uncons
    obtain ⟨shorter, read⟩ :=
      first_read tokens (t :: after) first_takes (by simp [comma, ends_comma])
    obtain ⟨texts, shorter', read', texts_ne, text_eq⟩ := others_read opener after rest takes
    obtain ⟨lexeme, position⟩ := t
    obtain rfl : lexeme = .symbol .comma := comma
    simp only [readFirstArgument, read, read']
    refine ⟨first.text :: texts, _, rfl, by simp, ?_⟩
    rw [List.intercalate_cons_of_ne_nil texts_ne, Derivation.text, ← text_eq]
    simp

/-- Tokens that are read are the word of a derivation, which gives the tree and the text. -/
theorem readTokens_sound {tokens : List Token} {tree : Tree} {text : List Char}
    (read : readTokens scope tokens = .ok (tree, text)) :
    ∃ d : Derivation scope.variableNames .sum, d.word = lexemes tokens ∧ d.tree = tree ∧
      d.text = text := by
  have sound := (soundBelow scope (tokens.length + 1)).sum tokens (Nat.lt_succ_self _)
  unfold readTokens at read
  split at read
  · cases read
  · cases first : readSum scope tokens with
    | error m => simp [first] at read
    | ok p =>
      rw [SumSound, first] at sound
      obtain ⟨d, tree_eq, text_eq, takes⟩ := sound
      cases left : p.rest with
      | nil =>
        simp only [first, left, Except.ok.injEq, Prod.mk.injEq] at read
        obtain ⟨rfl, rfl⟩ := read
        exact ⟨d, by rw [takes.lexemes_eq, left]; simp, tree_eq.symm, text_eq.symm⟩
      | cons t after =>
        simp only [first, left] at read
        split at read <;> cases read

/-- The word of a derivation is read. -/
theorem readTokens_complete (scope : Scope) {tokens : List Token}
    (d : Derivation scope.variableNames .sum) (same : d.word = lexemes tokens) :
    readTokens scope tokens = .ok (d.tree, d.text) := by
  obtain ⟨l, others, start, -⟩ := d.word_sum
  cases tokens with
  | nil => rw [start] at same; cases same
  | cons t after =>
    obtain ⟨shorter, read⟩ :=
      d.isRead (t :: after) [] ⟨t :: after, by simp, same.symm⟩ trivial
    simp [readTokens, read]

/-- Why tokens are refused: there is none, or a mistake is noticed at one of them or at the end. -/
def Mistake.Explains (m : Mistake) (scope : Scope) (tokens : List Token) : Prop :=
  (tokens = [] ∧ m = ⟨.empty, none⟩) ∨ m.Within scope tokens

private theorem readTokens_explained {tokens : List Token} {m : Mistake}
    (refused : readTokens scope tokens = .error m) : m.Explains scope tokens := by
  have sound := (soundBelow scope (tokens.length + 1)).sum tokens (Nat.lt_succ_self _)
  unfold readTokens at refused
  split at refused
  next nothing =>
    cases refused
    exact .inl ⟨List.isEmpty_iff.1 nothing, rfl⟩
  · refine .inr ?_
    cases first : readSum scope tokens with
    | error m' =>
      simp only [first, Except.error.injEq] at refused
      rw [SumSound, first] at sound
      exact refused ▸ sound
    | ok p =>
      rw [SumSound, first] at sound
      obtain ⟨d, -, -, takes⟩ := sound
      have subset := takes.subset
      cases left : p.rest with
      | nil => simp [first, left] at refused
      | cons t after =>
        -- the whole sum has been read and something is left over
        rw [left] at subset
        simp only [first, left] at refused
        split at refused
        · cases refused
          exact (Mistake.within_head _ scope t after).mono subset
        · cases refused
          exact (Mistake.within_strayToken scope t after).mono subset

/-- The reader accepts exactly the words of the grammar and hands back the tree and the text of the
derivation, of which there is only one. Everything else it refuses with a reason, and it never looks
past the end. -/
theorem readTokens_derivation (scope : Scope) (tokens : List Token) :
    (∀ tree text, readTokens scope tokens = .ok (tree, text) ↔
      ∃ d : Derivation scope.variableNames .sum, d.word = lexemes tokens ∧ d.tree = tree ∧
        d.text = text) ∧
    ((∃! d : Derivation scope.variableNames .sum, d.word = lexemes tokens) ∨
      ((¬ ∃ d : Derivation scope.variableNames .sum, d.word = lexemes tokens) ∧
        ∃ m, readTokens scope tokens = .error m ∧ m.Explains scope tokens)) := by
  constructor
  · intro tree text
    constructor
    · exact readTokens_sound
    · rintro ⟨d, same, rfl, rfl⟩
      exact readTokens_complete scope d same
  · cases read : readTokens scope tokens with
    | error m =>
      refine .inr ⟨?_, m, rfl, readTokens_explained read⟩
      rintro ⟨d, same⟩
      cases read.symm.trans (readTokens_complete scope d same)
    | ok result =>
      obtain ⟨d, same, -, -⟩ := readTokens_sound read
      exact .inl ⟨d, same, fun d' same' => Derivation.word_injective (same'.trans same.symm)⟩

theorem scan_withoutBlanks (chars : List Char) : scan (withoutBlanks chars) = scan chars := by
  simp [scan, withoutBlanks]

namespace Formula

variable {names : List String} {source : String}

/-- A formula that is read has the tree and the text of a derivation of its full spelling. -/
theorem parse_sound {formula : Formula} (parsed : parse names source = .ok formula) :
    ∃ tokens, scan source.toList = .ok tokens ∧
      ∃ d : Derivation (names.map String.toList) .sum, d.word = lexemes (spelledOut tokens) ∧
        d.tree = formula.tree ∧ String.ofList d.text = formula.rewritten := by
  unfold parse at parsed
  simp only [scan_withoutBlanks] at parsed
  cases scanned : scan source.toList with
  | error m => simp [scanned, Except.bind] at parsed
  | ok tokens =>
    rw [scanned] at parsed
    simp only [Except.bind] at parsed
    split at parsed
    · cases parsed
    next tree text read =>
      cases parsed
      obtain ⟨d, same, rfl, rfl⟩ := readTokens_sound read
      exact ⟨tokens, rfl, d, same, rfl, rfl⟩

theorem parse_of_derivation {tokens : List Token} (d : Derivation (names.map String.toList) .sum)
    (scanned : scan source.toList = .ok tokens) (same : d.word = lexemes (spelledOut tokens)) :
    parse names source =
      .ok ⟨d.tree, String.ofList d.text, String.ofList (withoutBlanks source.toList)⟩ := by
  have read :=
    readTokens_complete ⟨names.map String.toList, (withoutBlanks source.toList).length⟩ d same
  unfold parse
  simp only [scan_withoutBlanks, scanned, Except.bind, read]

/-- The same without the tokens: what is scanned and spelled out is the word of a derivation. -/
theorem parse_of_word (d : Derivation (names.map String.toList) .sum)
    (written : (scan source.toList).toOption.map (fun tokens =>
      lexemes (spelledOut tokens)) = some d.word) :
    parse names source =
      .ok ⟨d.tree, String.ofList d.text, String.ofList (withoutBlanks source.toList)⟩ := by
  obtain ⟨tokens, scanned, same⟩ := Option.map_eq_some_iff.1 written
  exact parse_of_derivation d (toOption_eq_some.1 scanned) same.symm

end Formula

/-! ### Formulas in the usual variable -/

namespace Derivation

theorem known_x : ['x'] ∈ ["x"].map String.toList := by decide

theorem noFunction_x : NamedFunction.ofLetters? ['x'] = none := by decide

theorem unhidden_x (c : Constant) : c.letters ∉ ["x"].map String.toList := by cases c <;> decide

end Derivation

end CurveBoard
