import CurveBoard.Proofs.Formula.Unambiguity

/-!
# What is read is derived

Every procedure of the reader takes the word of a derivation off the front of the tokens and hands
back the derivation's tree and text, or blames a token that it was given or the end of the text.
Each is shown from the others on fewer tokens, so the whole is an induction on their number.
-/
namespace CurveBoard

/-- The lexemes of tokens; where they stand does not matter to the grammar. -/
abbrev lexemes (tokens : List Token) : List Lexeme := tokens.map Token.lexeme

namespace Mistake

/-- A mistake that is noticed at a token or at the end of the text. -/
def Within (m : Mistake) (scope : Scope) (tokens : List Token) : Prop :=
  m = ⟨.endsEarly, some scope.ending⟩ ∨ ∃ t ∈ tokens, m.position = some t.position

theorem Within.mono {m : Mistake} {scope : Scope} {tokens more : List Token} (sub : tokens ⊆ more)
    (within : m.Within scope tokens) : m.Within scope more := by
  rcases within with ending | ⟨t, member, position⟩
  · exact .inl ending
  · exact .inr ⟨t, sub member, position⟩

theorem within_head (flaw : Flaw) (scope : Scope) (t : Token) (tokens : List Token) :
    Mistake.Within ⟨flaw, some t.position⟩ scope (t :: tokens) :=
  .inr ⟨t, List.mem_cons_self, rfl⟩

theorem within_strayToken (scope : Scope) (t : Token) (tokens : List Token) :
    (strayToken t).Within scope (t :: tokens) := by
  unfold strayToken
  split <;> exact within_head _ scope t tokens

end Mistake

/-- A result that has a property, or a mistake among the tokens. -/
def Outcome {α : Type} (scope : Scope) (tokens : List Token) (holds : α → Prop) :
    Except Mistake α → Prop
  | .ok a => holds a
  | .error m => m.Within scope tokens

namespace Outcome

variable {α : Type} {scope : Scope} {tokens more : List Token} {holds : α → Prop}

theorem mono {x : Except Mistake α} (sub : tokens ⊆ more)
    (outcome : Outcome scope tokens holds x) :
    Outcome scope more holds x := by
  cases x with
  | error m => exact Mistake.Within.mono sub outcome
  | ok a => exact outcome

end Outcome

/-- What was taken off the front of the tokens. -/
def Takes (word : List Lexeme) (tokens rest : List Token) : Prop :=
  ∃ taken, tokens = taken ++ rest ∧ lexemes taken = word

namespace Takes

variable {word word' : List Lexeme} {tokens middle rest : List Token}

theorem nil (tokens : List Token) : Takes [] tokens tokens := ⟨[], rfl, rfl⟩

theorem single (t : Token) (rest : List Token) : Takes [t.lexeme] (t :: rest) rest :=
  ⟨[t], rfl, rfl⟩

theorem append (first : Takes word tokens middle) (second : Takes word' middle rest) :
    Takes (word ++ word') tokens rest := by
  obtain ⟨taken, rfl, rfl⟩ := first
  obtain ⟨taken', rfl, rfl⟩ := second
  exact ⟨taken ++ taken', by simp, by simp⟩

theorem cons {t : Token} (takes : Takes word tokens rest) :
    Takes (t.lexeme :: word) (t :: tokens) rest :=
  (single t tokens).append takes

theorem subset (takes : Takes word tokens rest) : rest ⊆ tokens := by
  obtain ⟨taken, rfl, -⟩ := takes
  exact List.subset_append_right taken rest

end Takes

/-- What was read, with the word of what was taken. -/
structure Parsed.Reads {bound : Nat} (p : Parsed bound) (tokens : List Token) (tree : Tree)
    (text : List Char) (word : List Lexeme) : Prop where
  tree_eq : p.tree = tree
  text_eq : p.text = text
  takes : Takes word tokens p.rest

namespace Parsed.Reads

variable {bound : Nat} {p : Parsed bound} {tokens before : List Token} {tree : Tree}
  {text : List Char}
  {word word' : List Lexeme}

theorem after (reads : p.Reads tokens tree text word) (takes : Takes word' before tokens) :
    p.Reads before tree text (word' ++ word) :=
  ⟨reads.tree_eq, reads.text_eq, takes.append reads.takes⟩

theorem within {larger : Nat} (le : bound ≤ larger) (reads : p.Reads tokens tree text word) :
    (p.within larger le).Reads tokens tree text word :=
  ⟨reads.tree_eq, reads.text_eq, reads.takes⟩

end Parsed.Reads

/-- The same for arguments, whose texts are joined by commas in front of the closing parenthesis. -/
structure Arguments.Reads {bound : Nat} (p : Arguments bound) (tokens : List Token)
    (trees : List Tree) (text : List Char) (word : List Lexeme) : Prop where
  trees_eq : p.trees = trees
  texts_ne : p.texts ≠ []
  text_eq : List.intercalate [','] p.texts ++ [')'] = text
  takes : Takes word tokens p.rest

namespace Token

theorem sign?_eq_some {t : Token} {negative : Bool} (h : t.sign? = some negative) :
    t.lexeme = .symbol (.ofSign negative) := by
  unfold sign? at h
  split at h
  next plus => cases h; exact plus
  next minus => cases h; exact minus
  · cases h

theorem additive?_eq_some {t : Token} {operation : Operation} (h : t.additive? = some operation) :
    ∃ negative, t.lexeme = .symbol (.ofSign negative) ∧ operation = .ofSign negative := by
  unfold additive? at h
  split at h
  next plus => cases h; exact ⟨false, plus, rfl⟩
  next minus => cases h; exact ⟨true, minus, rfl⟩
  · cases h

theorem multiplicative?_eq_some {t : Token} {operation : Operation}
    (h : t.multiplicative? = some operation) :
    ∃ division, t.lexeme = .symbol (.ofDivision division) ∧
      operation = .ofDivision division := by
  unfold multiplicative? at h
  split at h
  next star => cases h; exact ⟨false, star, rfl⟩
  next slash => cases h; exact ⟨true, slash, rfl⟩
  · cases h

theorem isSymbol_iff {t : Token} {s : Symbol} : t.isSymbol s = true ↔ t.lexeme = .symbol s := by
  simp [isSymbol]

theorem text_symbol {t : Token} {s : Symbol} (h : t.lexeme = .symbol s) : t.text = [s.char] := by
  simp [text, h, Lexeme.text]

end Token

private theorem closed_outcome (scope : Scope) (opener : Token) (tokens : List Token) :
    Outcome scope (opener :: tokens) (fun rest => Takes [.symbol .closing] tokens rest.val)
      (closed opener tokens) := by
  unfold closed
  split
  · exact Mistake.within_head _ scope opener _
  next t rest =>
    split
    next closing =>
      rw [Token.isSymbol_iff] at closing
      exact closing ▸ Takes.single t rest
    · exact (Mistake.within_head _ scope t rest).mono (List.subset_cons_self _ _)

/-- The factorial signs that are read, and how many. -/
theorem factorialSigns_reads (tree : Tree) (text : List Char) (tokens : List Token) :
    ∃ signs, (factorialSigns tree text tokens).Reads tokens
      ((fun t => .call .factorial [t])^[signs] tree)
      ((fun t => callText .factorial [t])^[signs] text) (List.replicate signs (.symbol .bang)) := by
  induction tokens generalizing tree text with
  | nil => exact ⟨0, rfl, rfl, Takes.nil _⟩
  | cons t rest ih =>
    by_cases bang : t.isSymbol .bang
    · obtain ⟨signs, tree_eq, text_eq, takes⟩ :=
        ih (.call .factorial [tree]) (callText .factorial [text])
      rw [factorialSigns, if_pos bang]
      rw [Token.isSymbol_iff] at bang
      exact ⟨signs + 1, tree_eq, text_eq, bang ▸ takes.cons⟩
    · rw [factorialSigns, if_neg bang]
      exact ⟨0, rfl, rfl, Takes.nil _⟩

theorem NamedFunction.letters_of_ofLetters? {letters : List Char} {f : NamedFunction}
    (found : ofLetters? letters = some f) : f.letters = letters := by
  simpa using List.find?_some found

theorem Constant.letters_of_ofLetters? {letters : List Char} {c : Constant}
    (found : ofLetters? letters = some c) : c.letters = letters := by
  simpa using List.find?_some found

private theorem NamedFunction.not_accepts_zero (f : NamedFunction) : f.accepts 0 = false := by
  cases f <;> rfl

variable (scope : Scope)

/-- A name that no function has is read by itself. -/
theorem readOperand_noFunction {t : Token} {after : List Token} {letters : List Char}
    (name : t.lexeme = .name letters) (noFunction : NamedFunction.ofLetters? letters = none) :
    readOperand scope (t :: after) =
      if after.head?.any (Token.isSymbol · .opening) then
        .error ⟨.notAFunction letters, some t.position⟩
      else match namedOperand scope letters t.position with
        | .error m => .error m
        | .ok tree => .ok ⟨tree, letters, after, Nat.lt_succ_self _⟩ := by
  rw [readOperand]
  split
  next numeral => rw [name] at numeral; cases numeral
  next name' =>
    rw [name] at name'
    cases name'
    rw [noFunction]
    cases after <;> rfl
  next opening => rw [name] at opening; cases opening
  next symbol => rw [name] at symbol; cases symbol

/-- A name that no function has, and that is not called. -/
theorem namedOperand_outcome (t : Token) (after : List Token) {letters : List Char}
    (noFunction : NamedFunction.ofLetters? letters = none) :
    Outcome scope (t :: after)
      (fun tree => ∃ d : Derivation scope.variableNames .operand,
        d.tree = tree ∧ d.text = letters ∧ d.word = [.name letters])
      (namedOperand scope letters t.position) := by
  unfold namedOperand
  split
  next known => exact ⟨.variable letters (by simpa using known) noFunction, rfl, rfl, rfl⟩
  next unknown =>
    split
    next c found =>
      obtain rfl := Constant.letters_of_ofLetters? found
      exact ⟨.constant c (by simpa using unknown), rfl, rfl, rfl⟩
    · exact Mistake.within_head _ scope t after

/-! ### What each reader does to some tokens -/

section

variable (tokens : List Token)

abbrev SumSound : Prop :=
  Outcome scope tokens
    (fun p => ∃ d : Derivation scope.variableNames .sum, p.Reads tokens d.tree d.text d.word)
    (readSum scope tokens)

abbrev TermsSound (tree : Tree) (text : List Char) : Prop :=
  Outcome scope tokens
    (fun p => ∃ d : Derivation scope.variableNames .terms,
      p.Reads tokens (d.tree tree) (text ++ d.text) d.word)
    (readTerms scope tree text tokens)

abbrev ProductSound : Prop :=
  Outcome scope tokens
    (fun p => ∃ d : Derivation scope.variableNames .product, p.Reads tokens d.tree d.text d.word)
    (readProduct scope tokens)

abbrev FactorsSound (tree : Tree) (text : List Char) : Prop :=
  Outcome scope tokens
    (fun p => ∃ d : Derivation scope.variableNames .factors,
      p.Reads tokens (d.tree tree) (text ++ d.text) d.word)
    (readFactors scope tree text tokens)

abbrev SignedSound : Prop :=
  Outcome scope tokens
    (fun p => ∃ d : Derivation scope.variableNames .signed, p.Reads tokens d.tree d.text d.word)
    (readSigned scope tokens)

abbrev PowerSound : Prop :=
  Outcome scope tokens
    (fun p => ∃ d : Derivation scope.variableNames .power, p.Reads tokens d.tree d.text d.word)
    (readPower scope tokens)

abbrev ExponentSound (caret : Token) : Prop :=
  Outcome scope (caret :: tokens)
    (fun p => ∃ d : Derivation scope.variableNames .exponent, p.Reads tokens d.tree d.text d.word)
    (readExponent scope caret tokens)

abbrev OperandSound : Prop :=
  Outcome scope tokens
    (fun p => ∃ d : Derivation scope.variableNames .operand, p.Reads tokens d.tree d.text d.word)
    (readOperand scope tokens)

abbrev ArgumentsSound (opener : Token) : Prop :=
  Outcome scope (opener :: tokens)
    (fun p => ∃ d : Derivation scope.variableNames (.arguments p.trees.length),
      p.Reads tokens d.tree d.text d.word)
    (readFirstArgument scope opener tokens)

/-- Arguments may also be missing altogether, which no function accepts. -/
abbrev CallSound (opener : Token) : Prop :=
  Outcome scope (opener :: tokens)
    (fun p => p.trees = [] ∨ ∃ d : Derivation scope.variableNames (.arguments p.trees.length),
      p.Reads tokens d.tree d.text d.word)
    (readArguments scope opener tokens)

end

/-- What is known of all readers when they are given fewer than `n` tokens. -/
structure SoundBelow (n : Nat) : Prop where
  sum : ∀ tokens, tokens.length < n → SumSound scope tokens
  terms : ∀ tokens tree text, tokens.length < n → TermsSound scope tokens tree text
  product : ∀ tokens, tokens.length < n → ProductSound scope tokens
  factors : ∀ tokens tree text, tokens.length < n → FactorsSound scope tokens tree text
  signed : ∀ tokens, tokens.length < n → SignedSound scope tokens
  exponent : ∀ tokens caret, tokens.length < n → ExponentSound scope tokens caret
  arguments : ∀ tokens opener, tokens.length < n → ArgumentsSound scope tokens opener

variable {scope} {tokens : List Token}

private theorem readArguments_sound {opener : Token} (first : ArgumentsSound scope tokens opener) :
    CallSound scope tokens opener := by
  match tokens with
  | [] =>
    rw [CallSound, readArguments]
    cases read : readFirstArgument scope opener [] with
    | error m => rw [ArgumentsSound, read] at first; exact first
    | ok p => rw [ArgumentsSound, read] at first; exact .inr first
  | t :: after =>
    rw [CallSound, readArguments]
    split
    · exact .inl rfl
    · cases read : readFirstArgument scope opener (t :: after) with
      | error m => rw [ArgumentsSound, read] at first; exact first
      | ok p => rw [ArgumentsSound, read] at first; exact .inr first

/-- A name that no function has is a variable or a constant. -/
theorem readOperand_noFunction_sound {t : Token} {after : List Token}
    (plain : ∃ letters, t.lexeme = .name letters ∧ NamedFunction.ofLetters? letters = none) :
    OperandSound scope (t :: after) := by
  obtain ⟨letters, name, noFunction⟩ := plain
  rw [OperandSound, readOperand_noFunction scope name noFunction]
  split
  · exact Mistake.within_head _ scope t after
  · have named := namedOperand_outcome scope t after noFunction
    cases read : namedOperand scope letters t.position with
    | error m => rw [read] at named; exact named
    | ok tree =>
      rw [read] at named
      obtain ⟨d, tree_eq, text_eq, word_eq⟩ := named
      exact ⟨d, tree_eq.symm, text_eq.symm,
        by rw [word_eq, ← name]; exact Takes.single t after⟩

theorem readOperand_sound (below : SoundBelow scope tokens.length) :
    OperandSound scope tokens := by
  match tokens with
  | [] =>
    rw [OperandSound, readOperand]
    exact .inl rfl
  | t :: after =>
    -- names of variables and constants first: the reader looks them up in two places
    by_cases plain : ∃ letters, t.lexeme = .name letters ∧
      NamedFunction.ofLetters? letters = none
    · exact readOperand_noFunction_sound plain
    rw [OperandSound, readOperand]
    split
    next digits numeral =>
      exact ⟨.number digits, rfl, rfl,
        by simpa [numeral, Derivation.word] using Takes.single t after⟩
    next letters name =>
      cases found : NamedFunction.ofLetters? letters with
      | some f =>
        obtain rfl := NamedFunction.letters_of_ofLetters? found
        cases after with
        | nil => exact Mistake.within_head _ scope t _
        | cons next inside =>
          dsimp only
          split
          next opening =>
            have arguments := (readArguments_sound (below.arguments inside next
              (Nat.lt_succ_of_lt (Nat.lt_succ_self _)))).mono (List.subset_cons_self t _)
            cases read : readArguments scope next inside with
            | error m => rw [read] at arguments; exact arguments
            | ok p =>
              rw [read] at arguments
              dsimp only
              split
              next accepted =>
                rcases arguments with none | ⟨d, reads⟩
                · -- a call without arguments has been refused
                  rw [none, List.length_nil, f.not_accepts_zero] at accepted
                  cases accepted
                · have takes := reads.takes.cons (t := next).cons (t := t)
                  rw [name, Token.isSymbol_iff.1 opening] at takes
                  exact ⟨.call f d accepted, congrArg (Tree.call f) reads.trees_eq,
                    by rw [callText, reads.text_eq]; rfl, takes⟩
              · exact Mistake.within_head _ scope t _
          · exact Mistake.within_head _ scope t _
      | none => exact absurd ⟨letters, name, found⟩ plain
    next opening =>
      have inner := (below.sum after (Nat.lt_succ_self _)).mono (List.subset_cons_self t after)
      cases read : readSum scope after with
      | error m => rw [read] at inner; exact inner
      | ok p =>
        rw [read] at inner
        obtain ⟨d, inner⟩ := inner
        -- the mistake of an open parenthesis is blamed on the token that opens it
        have closing := (closed_outcome scope t p.rest).mono
          (List.cons_subset_cons _ inner.takes.subset)
        dsimp only
        cases shut : closed t p.rest with
        | error m => rw [shut] at closing; exact closing
        | ok rest =>
          rw [shut] at closing
          have takes := (inner.takes.append closing).cons (t := t)
          rw [opening] at takes
          exact ⟨.group d, inner.tree_eq, by rw [inner.text_eq]; rfl, takes⟩
    · exact Mistake.within_strayToken scope t after

private theorem readPower_sound (below : SoundBelow scope tokens.length) :
    PowerSound scope tokens := by
  have base := readOperand_sound below
  rw [PowerSound, readPower]
  cases read : readOperand scope tokens with
  | error m => rw [OperandSound, read] at base; exact base
  | ok p =>
    rw [OperandSound, read] at base
    obtain ⟨d, base⟩ := base
    dsimp only
    split
    · exact ⟨.bare d, base⟩
    next t after rest =>
      split
      next caret =>
        -- the exponent has fewer tokens, since the operand has taken some
        have takes := base.takes
        rw [rest] at takes
        have exponent := (below.exponent after t (by
          have := p.shorter; simp only [rest, List.length_cons] at this; omega)).mono takes.subset
        cases read' : readExponent scope t after with
        | error m => rw [read'] at exponent; exact exponent
        | ok p' =>
          rw [read'] at exponent
          obtain ⟨d', exponent⟩ := exponent
          have takes := takes.append exponent.takes.cons
          rw [Token.isSymbol_iff.1 caret] at takes
          exact ⟨.raised d d', by rw [base.tree_eq, exponent.tree_eq]; rfl,
            by rw [base.text_eq, exponent.text_eq]; rfl, takes⟩
      · exact ⟨.bare d, base⟩

private theorem readExponent_sound (caret : Token) (below : SoundBelow scope tokens.length) :
    ExponentSound scope tokens caret := by
  match tokens with
  | [] =>
    rw [ExponentSound, readExponent]
    exact Mistake.within_head _ scope caret _
  | t :: after =>
    rw [ExponentSound, readExponent]
    split
    · exact Mistake.within_head _ scope caret _
    · cases found : t.sign? with
      | some negative =>
        have sign := Token.sign?_eq_some found
        have inner := (below.exponent after caret (Nat.lt_succ_self _)).mono
          (List.cons_subset_cons caret (List.subset_cons_self t after))
        dsimp only
        cases read : readExponent scope caret after with
        | error m => rw [read] at inner; exact inner
        | ok p =>
          rw [read] at inner
          obtain ⟨d, inner⟩ := inner
          have takes := inner.takes.cons (t := t)
          rw [sign] at takes
          exact ⟨.signedExponent negative d, by rw [inner.tree_eq]; rfl,
            by rw [inner.text_eq, Token.text_symbol sign]; rfl, takes⟩
      | none =>
        have power := (readPower_sound below).mono (List.subset_cons_self caret _)
        dsimp only
        cases read : readPower scope (t :: after) with
        | error m => rw [read] at power; exact power
        | ok p =>
          rw [read] at power
          obtain ⟨d, power⟩ := power
          exact ⟨.unsignedExponent d, power⟩

theorem readSigned_sound (below : SoundBelow scope tokens.length) :
    SignedSound scope tokens := by
  match tokens with
  | [] =>
    rw [SignedSound, readSigned]
    exact .inl rfl
  | t :: after =>
    rw [SignedSound, readSigned]
    cases found : t.sign? with
    | some negative =>
      have sign := Token.sign?_eq_some found
      have inner := (below.signed after (Nat.lt_succ_self _)).mono (List.subset_cons_self t after)
      dsimp only
      cases read : readSigned scope after with
      | error m => rw [read] at inner; exact inner
      | ok p =>
        rw [read] at inner
        obtain ⟨d, inner⟩ := inner
        have takes := inner.takes.cons (t := t)
        rw [sign] at takes
        exact ⟨.signed negative d, by rw [inner.tree_eq]; rfl,
          by rw [inner.text_eq, Token.text_symbol sign]; rfl, takes⟩
    | none =>
      have power := readPower_sound below
      dsimp only
      cases read : readPower scope (t :: after) with
      | error m => rw [PowerSound, read] at power; exact power
      | ok p =>
        rw [PowerSound, read] at power
        obtain ⟨d, power⟩ := power
        obtain ⟨signs, reads⟩ := factorialSigns_reads p.tree p.text p.rest
        exact ⟨.unsigned (.factorial d signs), reads.tree_eq.trans (congrArg _ power.tree_eq),
          reads.text_eq.trans (congrArg _ power.text_eq), power.takes.append reads.takes⟩

private theorem readFactors_sound (tree : Tree) (text : List Char)
    (below : SoundBelow scope tokens.length) :
    FactorsSound scope tokens tree text := by
  match tokens with
  | [] =>
    rw [FactorsSound, readFactors]
    exact ⟨.noFactor, rfl, by simp [Derivation.text], Takes.nil _⟩
  | t :: after =>
    rw [FactorsSound, readFactors]
    cases found : t.multiplicative? with
    | none => exact ⟨.noFactor, rfl, by simp [Derivation.text], Takes.nil _⟩
    | some operation =>
      obtain ⟨division, sign, rfl⟩ := Token.multiplicative?_eq_some found
      have next := (below.signed after (Nat.lt_succ_self _)).mono (List.subset_cons_self t after)
      dsimp only
      cases read : readSigned scope after with
      | error m => rw [read] at next; exact next
      | ok p =>
        rw [read] at next
        obtain ⟨d, next⟩ := next
        have takes := (Takes.single t after).append next.takes
        rw [sign] at takes
        -- all that is read so far is the left operand of what comes next
        have others := (below.factors p.rest (.binary (.ofDivision division) tree p.tree)
          (text ++ t.text ++ p.text) (Nat.lt_succ_of_lt p.shorter)).mono takes.subset
        dsimp only
        cases read' : readFactors scope (.binary (.ofDivision division) tree p.tree)
            (text ++ t.text ++ p.text) p.rest with
        | error m => rw [read'] at others; exact others
        | ok whole =>
          rw [read'] at others
          obtain ⟨d', others⟩ := others
          rw [next.tree_eq, next.text_eq, Token.text_symbol sign] at others
          refine ⟨.factor division d d', ?_⟩
          have reads := (others.after takes).within (by
            have := p.shorter; simp only [List.length_cons]; omega : _ ≤ (t :: after).length + 1)
          simpa [Derivation.word, Derivation.text, Derivation.tree] using reads

theorem readProduct_sound (below : SoundBelow scope tokens.length) :
    ProductSound scope tokens := by
  have first := readSigned_sound below
  rw [ProductSound, readProduct]
  cases read : readSigned scope tokens with
  | error m => rw [SignedSound, read] at first; exact first
  | ok p =>
    rw [SignedSound, read] at first
    obtain ⟨d, first⟩ := first
    have others := (below.factors p.rest p.tree p.text p.shorter).mono first.takes.subset
    dsimp only
    cases read' : readFactors scope p.tree p.text p.rest with
    | error m => rw [read'] at others; exact others
    | ok whole =>
      rw [read'] at others
      obtain ⟨d', others⟩ := others
      rw [first.tree_eq, first.text_eq] at others
      exact ⟨.product d d', (others.after first.takes).within _⟩

private theorem readTerms_sound (tree : Tree) (text : List Char)
    (below : SoundBelow scope tokens.length) :
    TermsSound scope tokens tree text := by
  match tokens with
  | [] =>
    rw [TermsSound, readTerms]
    exact ⟨.noTerm, rfl, by simp [Derivation.text], Takes.nil _⟩
  | t :: after =>
    rw [TermsSound, readTerms]
    cases found : t.additive? with
    | none => exact ⟨.noTerm, rfl, by simp [Derivation.text], Takes.nil _⟩
    | some operation =>
      obtain ⟨negative, sign, rfl⟩ := Token.additive?_eq_some found
      have next := (below.product after (Nat.lt_succ_self _)).mono (List.subset_cons_self t after)
      dsimp only
      cases read : readProduct scope after with
      | error m => rw [read] at next; exact next
      | ok p =>
        rw [read] at next
        obtain ⟨d, next⟩ := next
        have takes := (Takes.single t after).append next.takes
        rw [sign] at takes
        -- all that is read so far is the left operand of what comes next
        have others := (below.terms p.rest (.binary (.ofSign negative) tree p.tree)
          (text ++ t.text ++ p.text) (Nat.lt_succ_of_lt p.shorter)).mono takes.subset
        dsimp only
        cases read' : readTerms scope (.binary (.ofSign negative) tree p.tree)
            (text ++ t.text ++ p.text) p.rest with
        | error m => rw [read'] at others; exact others
        | ok whole =>
          rw [read'] at others
          obtain ⟨d', others⟩ := others
          rw [next.tree_eq, next.text_eq, Token.text_symbol sign] at others
          refine ⟨.term negative d d', ?_⟩
          have reads := (others.after takes).within (by
            have := p.shorter; simp only [List.length_cons]; omega : _ ≤ (t :: after).length + 1)
          simpa [Derivation.word, Derivation.text, Derivation.tree] using reads

theorem readSum_sound (below : SoundBelow scope tokens.length) :
    SumSound scope tokens := by
  have first := readProduct_sound below
  rw [SumSound, readSum]
  cases read : readProduct scope tokens with
  | error m => rw [ProductSound, read] at first; exact first
  | ok p =>
    rw [ProductSound, read] at first
    obtain ⟨d, first⟩ := first
    have others := (below.terms p.rest p.tree p.text p.shorter).mono first.takes.subset
    dsimp only
    cases read' : readTerms scope p.tree p.text p.rest with
    | error m => rw [read'] at others; exact others
    | ok whole =>
      rw [read'] at others
      obtain ⟨d', others⟩ := others
      rw [first.tree_eq, first.text_eq] at others
      exact ⟨.sum d d', (others.after first.takes).within _⟩

private theorem readFirstArgument_sound (opener : Token) (below : SoundBelow scope tokens.length) :
    ArgumentsSound scope tokens opener := by
  have first := (readSum_sound below).mono (List.subset_cons_self opener tokens)
  rw [ArgumentsSound, readFirstArgument]
  cases read : readSum scope tokens with
  | error m => rw [read] at first; exact first
  | ok p =>
    rw [read] at first
    obtain ⟨d, first⟩ := first
    have takes := first.takes
    dsimp only
    split
    next position after rest =>
      rw [rest] at takes
      have others := (below.arguments after opener (by
        have := p.shorter; simp only [rest, List.length_cons] at this; omega)).mono
        (List.cons_subset_cons opener (List.Subset.trans (List.subset_cons_self _ _) takes.subset))
      cases read' : readFirstArgument scope opener after with
      | error m => rw [read'] at others; exact others
      | ok p' =>
        rw [read'] at others
        obtain ⟨d', others⟩ := others
        refine ⟨.argument d d', congrArg₂ List.cons first.tree_eq others.trees_eq, by simp, ?_,
          takes.append others.takes.cons⟩
        · rw [List.intercalate_cons_of_ne_nil others.texts_ne, first.text_eq]
          simp only [List.append_assoc, others.text_eq]
          rfl
    next others =>
      have closing :=
        (closed_outcome scope opener p.rest).mono (List.cons_subset_cons _ takes.subset)
      cases shut : closed opener p.rest with
      | error m => rw [shut] at closing; exact closing
      | ok rest =>
        rw [shut] at closing
        exact ⟨.lastArgument d, by rw [first.tree_eq]; rfl, by simp,
          by simp [first.text_eq, Derivation.text], takes.append closing⟩

variable (scope) in
/-- All readers are sound, by induction on the number of tokens. -/
theorem soundBelow (n : Nat) : SoundBelow scope n := by
  -- A reader on some tokens is shown from readers on fewer tokens; within the same tokens from a
  -- looser part to a tighter one, which its own lemma does.
  induction n using Nat.strongRecOn with
  | _ n ih =>
    exact {
      sum := fun _ shorter => readSum_sound (ih _ shorter)
      terms := fun _ tree text shorter => readTerms_sound tree text (ih _ shorter)
      product := fun _ shorter => readProduct_sound (ih _ shorter)
      factors := fun _ tree text shorter => readFactors_sound tree text (ih _ shorter)
      signed := fun _ shorter => readSigned_sound (ih _ shorter)
      exponent := fun _ caret shorter => readExponent_sound caret (ih _ shorter)
      arguments := fun _ opener shorter => readFirstArgument_sound opener (ih _ shorter) }

end CurveBoard
