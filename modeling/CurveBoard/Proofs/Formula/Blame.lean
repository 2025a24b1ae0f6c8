import CurveBoard.Proofs.Formula.Rescanning

/-!
# Where mistakes are noticed

A formula that is refused is blamed at the end of its text, if it ends where an operand is due, or
at one of its tokens, of which the message is true. A product sign is blamed only where an operand
is due, and none is put in there; so what is blamed has been written by the user.

The readers are taken one after the other as for their soundness, which tells what each leaves to
the next.
-/
namespace CurveBoard

/-! ### Mistakes at tokens -/

/-- What a message says of the lexeme it points at. -/
def Flaw.Fits : Flaw → Lexeme → Prop
  | unbalancedClosing, l => l = .symbol .closing
  | missingLeftOperand text, l => (l = .symbol .caret ∨ l = .symbol .bang) ∧ l.text = text
  | missingRightOperand, l => l = .symbol .caret
  | unexpectedToken text, l => l.text = text
  | missingClosing, l => l = .symbol .opening
  | expectedClosing text, l => l.text = text
  | bareFunction letters, l => l = .name letters
  | notAFunction letters, l => l = .name letters
  | unknownName letters, l => l = .name letters
  | wrongCount f _, l => l = .name f.letters
  | _, _ => False

/-- Whether an operand is due at the last tokens of a list: no factor ends in front of them. -/
def OperandDue (all tokens : List Token) : Prop :=
  ∃ before, all = before ++ tokens ∧ ∀ t ∈ before.getLast?, ¬ t.lexeme.EndsFactor

/-- A mistake that is noticed at the end, or at a token that it fits. A product sign is blamed where
an operand is due, and nowhere else. -/
inductive Mistake.Blames (ending : Nat) (all : List Token) : Mistake → Prop
  | ending : Blames ending all ⟨.endsEarly, some ending⟩
  | token {t : Token} {after : List Token} {flaw : Flaw} (suffix : t :: after <:+ all)
      (fits : flaw.Fits t.lexeme)
      (due : t.lexeme = .symbol .star → OperandDue all (t :: after)) :
        Blames ending all ⟨flaw, some t.position⟩

section Blames

variable {ending : Nat} {all tokens after : List Token} {t : Token} {s : Symbol}

theorem OperandDue.suffix (due : OperandDue all tokens) : tokens <:+ all := by
  obtain ⟨before, rfl, -⟩ := due
  exact List.suffix_append before tokens

private theorem operandDue_self (all : List Token) : OperandDue all all := ⟨[], rfl, by simp⟩

/-- An operand is due after every symbol but a parenthesis that closes. -/
theorem operandDue_of_symbol (suffix : t :: after <:+ all) (symbol : t.lexeme = .symbol s)
    (other : s ≠ .closing) :
    OperandDue all after := by
  obtain ⟨before, rfl⟩ := suffix
  refine ⟨before ++ [t], by simp, ?_⟩
  simp [symbol, Lexeme.EndsFactor, other]

private theorem blames_of_mem {flaw : Flaw} (member : t ∈ all) (fits : flaw.Fits t.lexeme)
    (other : t.lexeme ≠ .symbol .star) :
    Mistake.Blames ending all ⟨flaw, some t.position⟩ := by
  obtain ⟨before, after, rfl⟩ := List.append_of_mem member
  exact .token (List.suffix_append before _) fits fun star => absurd star other

private theorem fits_strayToken (t : Token) :
    ∃ flaw : Flaw, strayToken t = ⟨flaw, some t.position⟩ ∧ flaw.Fits t.lexeme := by
  unfold strayToken
  split
  next operation =>
    refine ⟨_, rfl, ?_, rfl⟩
    simpa [Token.isSymbol] using operation
  · exact ⟨_, rfl, rfl⟩

private theorem blames_strayToken (due : OperandDue all (t :: after)) :
    (strayToken t).Blames ending all := by
  obtain ⟨flaw, same, fits⟩ := fits_strayToken t
  exact same ▸ .token due.suffix fits fun _ => due

end Blames

/-- A result that has a property, or a mistake that is blamed on a token or on the end. -/
def Blamed {α : Type} (scope : Scope) (all : List Token) (holds : α → Prop) :
    Except Mistake α → Prop
  | .ok a => holds a
  | .error m => m.Blames scope.ending all

variable {scope : Scope} {all tokens : List Token}

/-! ### What the readers leave -/

/-- Whether no product goes on. -/
def NoStar (tokens : List Token) : Prop := ∀ t ∈ tokens.head?, t.lexeme ≠ .symbol .star

theorem Takes.suffix {word : List Lexeme} {rest : List Token} (takes : Takes word tokens rest) :
    rest <:+ tokens := by
  obtain ⟨taken, rfl, -⟩ := takes
  exact List.suffix_append taken rest

section Rest

variable {p : Parsed tokens.length}

private theorem readOperand_suffix (read : readOperand scope tokens = .ok p) :
    p.rest <:+ tokens := by
  have sound := readOperand_sound (soundBelow scope tokens.length)
  rw [OperandSound, read] at sound
  exact sound.choose_spec.takes.suffix

private theorem readSigned_suffix (read : readSigned scope tokens = .ok p) : p.rest <:+ tokens := by
  have sound := readSigned_sound (soundBelow scope tokens.length)
  rw [SignedSound, read] at sound
  exact sound.choose_spec.takes.suffix

private theorem readProduct_suffix (read : readProduct scope tokens = .ok p) :
    p.rest <:+ tokens := by
  have sound := readProduct_sound (soundBelow scope tokens.length)
  rw [ProductSound, read] at sound
  exact sound.choose_spec.takes.suffix

private theorem readSum_suffix (read : readSum scope tokens = .ok p) : p.rest <:+ tokens := by
  have sound := readSum_sound (soundBelow scope tokens.length)
  rw [SumSound, read] at sound
  exact sound.choose_spec.takes.suffix

end Rest

/-! ### What the readers blame -/

/-- What is known of all readers when they are given fewer than `n` of the last tokens. A product,
and so a sum, is read as far as it goes. -/
structure BlamesBelow (scope : Scope) (all : List Token) (n : Nat) : Prop where
  sum : ∀ tokens, tokens.length < n → OperandDue all tokens →
    Blamed scope all (NoStar ·.rest) (readSum scope tokens)
  terms : ∀ tokens tree text, tokens.length < n → tokens <:+ all → NoStar tokens →
    Blamed scope all (NoStar ·.rest) (readTerms scope tree text tokens)
  product : ∀ tokens, tokens.length < n → OperandDue all tokens →
    Blamed scope all (NoStar ·.rest) (readProduct scope tokens)
  factors : ∀ tokens tree text, tokens.length < n → tokens <:+ all →
    Blamed scope all (NoStar ·.rest) (readFactors scope tree text tokens)
  signed : ∀ tokens, tokens.length < n → OperandDue all tokens →
    Blamed scope all (fun _ => True) (readSigned scope tokens)
  exponent : ∀ tokens, ∀ caret ∈ all, caret.lexeme = .symbol .caret → tokens.length < n →
    OperandDue all tokens →
    Blamed scope all (fun _ => True) (readExponent scope caret tokens)
  arguments : ∀ tokens, ∀ opener ∈ all, opener.lexeme = .symbol .opening →
    tokens.length < n → OperandDue all tokens →
    Blamed scope all (fun _ => True) (readFirstArgument scope opener tokens)

section Readers

variable {opener caret : Token}

/-- A parenthesis that is not closed is blamed on itself, or on what stands in the place of its
partner. -/
theorem closed_blames (member : opener ∈ all) (opening : opener.lexeme = .symbol .opening)
    (suffix : tokens <:+ all) (noStar : NoStar tokens) :
    Blamed scope all (fun _ => True) (closed opener tokens) := by
  unfold closed
  split
  · exact blames_of_mem member opening (by simp [opening])
  next t rest =>
    split
    · trivial
    · exact blames_of_mem (suffix.subset List.mem_cons_self) rfl (noStar t rfl)

private theorem readArguments_blames
    (first : Blamed scope all (fun _ => True) (readFirstArgument scope opener tokens)) :
    Blamed scope all (fun _ => True) (readArguments scope opener tokens) := by
  match tokens with
  | [] =>
    rw [readArguments]
    exact first
  | t :: after =>
    rw [readArguments]
    split
    · trivial
    · exact first

/-- A name is blamed on itself. -/
theorem readOperand_noFunction_blames {t : Token} {after : List Token} {letters : List Char}
    (member : t ∈ all) (name : t.lexeme = .name letters)
    (noFunction : NamedFunction.ofLetters? letters = none) :
    Blamed scope all (fun _ => True) (readOperand scope (t :: after)) := by
  have other : t.lexeme ≠ .symbol .star := by simp [name]
  rw [readOperand_noFunction scope name noFunction]
  split
  · exact blames_of_mem member name other
  · cases named : namedOperand scope letters t.position with
    | ok tree => trivial
    | error m =>
      unfold namedOperand at named
      split at named
      · cases named
      · split at named
        · cases named
        · cases named
          exact blames_of_mem member name other

private theorem readOperand_blames (below : BlamesBelow scope all tokens.length)
    (due : OperandDue all tokens) :
    Blamed scope all (fun _ => True) (readOperand scope tokens) := by
  match tokens with
  | [] =>
    rw [readOperand]
    exact .ending
  | t :: after =>
    have member : t ∈ all := due.suffix.subset List.mem_cons_self
    -- names of variables and constants first: the reader looks them up in two places
    by_cases plain : ∃ letters, t.lexeme = .name letters ∧
      NamedFunction.ofLetters? letters = none
    · obtain ⟨letters, name, noFunction⟩ := plain
      exact readOperand_noFunction_blames member name noFunction
    rw [readOperand]
    split
    · trivial
    next letters name =>
      have other : t.lexeme ≠ .symbol .star := by simp [name]
      cases found : NamedFunction.ofLetters? letters with
      | some f =>
        obtain rfl := NamedFunction.letters_of_ofLetters? found
        cases after with
        | nil => exact blames_of_mem member name other
        | cons next inside =>
          dsimp only
          split
          next opening =>
            rw [Token.isSymbol_iff] at opening
            have later : next :: inside <:+ all := (List.suffix_cons t _).trans due.suffix
            have arguments :=
              readArguments_blames (below.arguments inside next (later.subset List.mem_cons_self)
              opening (Nat.lt_succ_of_lt (Nat.lt_succ_self _))
                (operandDue_of_symbol later opening (by decide)))
            cases read : readArguments scope next inside with
            | error m => rw [read] at arguments; exact arguments
            | ok p =>
              dsimp only
              split
              · trivial
              · exact blames_of_mem member name other
          · exact blames_of_mem member name other
      | none => exact absurd ⟨letters, name, found⟩ plain
    next opening =>
      -- inside the parentheses an operand is due again; after them what is left over may be
      -- anything but a star
      have inner :=
        below.sum after (Nat.lt_succ_self _) (operandDue_of_symbol due.suffix opening (by decide))
      cases read : readSum scope after with
      | error m => rw [read] at inner; exact inner
      | ok p =>
        rw [read] at inner
        have suffix : p.rest <:+ all :=
          (readSum_suffix read).trans ((List.suffix_cons t after).trans due.suffix)
        have closing : Blamed scope all (fun _ => True) (closed t p.rest) :=
          closed_blames member opening suffix inner
        dsimp only
        cases shut : closed t p.rest with
        | error m => rw [shut] at closing; exact closing
        | ok rest => trivial
    · exact blames_strayToken due

private theorem readPower_blames (below : BlamesBelow scope all tokens.length)
    (due : OperandDue all tokens) :
    Blamed scope all (fun _ => True) (readPower scope tokens) := by
  have base := readOperand_blames below due
  rw [readPower]
  cases read : readOperand scope tokens with
  | error m => rw [read] at base; exact base
  | ok p =>
    dsimp only
    split
    · trivial
    next t after rest =>
      split
      next caret =>
        rw [Token.isSymbol_iff] at caret
        have suffix : t :: after <:+ all := rest ▸ (readOperand_suffix read).trans due.suffix
        have exponent := below.exponent after t (suffix.subset List.mem_cons_self) caret (by
          have := p.shorter; simp only [rest, List.length_cons] at this; omega)
          (operandDue_of_symbol suffix caret (by decide))
        cases read' : readExponent scope t after with
        | error m => rw [read'] at exponent; exact exponent
        | ok p' => trivial
      · trivial

private theorem readExponent_blames (member : caret ∈ all)
    (symbol : caret.lexeme = .symbol .caret) (below : BlamesBelow scope all tokens.length)
    (due : OperandDue all tokens) :
    Blamed scope all (fun _ => True) (readExponent scope caret tokens) := by
  -- what cannot start an exponent is not blamed itself, a product sign neither
  have blame : Mistake.Blames scope.ending all ⟨.missingRightOperand, some caret.position⟩ :=
    blames_of_mem member symbol (by simp [symbol])
  match tokens with
  | [] =>
    rw [readExponent]
    exact blame
  | t :: after =>
    rw [readExponent]
    split
    · exact blame
    · cases found : t.sign? with
      | some negative =>
        have inner := below.exponent after caret member symbol (Nat.lt_succ_self _)
          (operandDue_of_symbol due.suffix (Token.sign?_eq_some found)
            (by cases negative <;> decide))
        dsimp only
        cases read : readExponent scope caret after with
        | error m => rw [read] at inner; exact inner
        | ok p => trivial
      | none => exact readPower_blames below due

private theorem readSigned_blames (below : BlamesBelow scope all tokens.length)
    (due : OperandDue all tokens) :
    Blamed scope all (fun _ => True) (readSigned scope tokens) := by
  match tokens with
  | [] =>
    rw [readSigned]
    exact .ending
  | t :: after =>
    rw [readSigned]
    cases found : t.sign? with
    | some negative =>
      have inner := below.signed after (Nat.lt_succ_self _)
        (operandDue_of_symbol due.suffix (Token.sign?_eq_some found) (by cases negative <;> decide))
      dsimp only
      cases read : readSigned scope after with
      | error m => rw [read] at inner; exact inner
      | ok p => trivial
    | none =>
      have power := readPower_blames below due
      dsimp only
      cases read : readPower scope (t :: after) with
      | error m => rw [read] at power; exact power
      | ok p => trivial

private theorem readFactors_blames (tree : Tree) (text : List Char)
    (below : BlamesBelow scope all tokens.length) (suffix : tokens <:+ all) :
    Blamed scope all (NoStar ·.rest) (readFactors scope tree text tokens) := by
  match tokens with
  | [] =>
    rw [readFactors]
    intro t head
    cases head
  | t :: after =>
    rw [readFactors]
    cases found : t.multiplicative? with
    | none =>
      intro t' head star
      cases head
      -- a star would have been read as a sign
      simp [Token.multiplicative?, star] at found
    | some operation =>
      obtain ⟨division, sign, rfl⟩ := Token.multiplicative?_eq_some found
      have next := below.signed after (Nat.lt_succ_self _)
        (operandDue_of_symbol suffix sign (by cases division <;> decide))
      dsimp only
      cases read : readSigned scope after with
      | error m => rw [read] at next; exact next
      | ok p =>
        have others := below.factors p.rest (.binary (.ofDivision division) tree p.tree)
          (text ++ t.text ++ p.text) (Nat.lt_succ_of_lt p.shorter)
          ((readSigned_suffix read).trans ((List.suffix_cons t after).trans suffix))
        dsimp only
        cases read' : readFactors scope (.binary (.ofDivision division) tree p.tree)
          (text ++ t.text ++ p.text) p.rest with
        | error m => rw [read'] at others; exact others
        | ok whole => rw [read'] at others; exact others

private theorem readProduct_blames (below : BlamesBelow scope all tokens.length)
    (due : OperandDue all tokens) :
    Blamed scope all (NoStar ·.rest) (readProduct scope tokens) := by
  have first := readSigned_blames below due
  rw [readProduct]
  cases read : readSigned scope tokens with
  | error m => rw [read] at first; exact first
  | ok p =>
    have others :=
      below.factors p.rest p.tree p.text p.shorter ((readSigned_suffix read).trans due.suffix)
    dsimp only
    cases read' : readFactors scope p.tree p.text p.rest with
    | error m => rw [read'] at others; exact others
    | ok whole => rw [read'] at others; exact others

private theorem readTerms_blames (tree : Tree) (text : List Char)
    (below : BlamesBelow scope all tokens.length) (suffix : tokens <:+ all)
    (noStar : NoStar tokens) :
    Blamed scope all (NoStar ·.rest) (readTerms scope tree text tokens) := by
  match tokens with
  | [] =>
    rw [readTerms]
    exact noStar
  | t :: after =>
    rw [readTerms]
    cases found : t.additive? with
    | none => exact noStar
    | some operation =>
      obtain ⟨negative, sign, rfl⟩ := Token.additive?_eq_some found
      -- an operand is due behind the sign, and no star stands in front of it
      have next := below.product after (Nat.lt_succ_self _)
        (operandDue_of_symbol suffix sign (by cases negative <;> decide))
      dsimp only
      cases read : readProduct scope after with
      | error m => rw [read] at next; exact next
      | ok p =>
        rw [read] at next
        have others := below.terms p.rest (.binary (.ofSign negative) tree p.tree)
          (text ++ t.text ++ p.text) (Nat.lt_succ_of_lt p.shorter)
          ((readProduct_suffix read).trans ((List.suffix_cons t after).trans suffix)) next
        dsimp only
        cases read' : readTerms scope (.binary (.ofSign negative) tree p.tree)
          (text ++ t.text ++ p.text) p.rest with
        | error m => rw [read'] at others; exact others
        | ok whole => rw [read'] at others; exact others

private theorem readSum_blames (below : BlamesBelow scope all tokens.length)
    (due : OperandDue all tokens) :
    Blamed scope all (NoStar ·.rest) (readSum scope tokens) := by
  have first := readProduct_blames below due
  rw [readSum]
  cases read : readProduct scope tokens with
  | error m => rw [read] at first; exact first
  | ok p =>
    rw [read] at first
    have others :=
      below.terms p.rest p.tree p.text p.shorter ((readProduct_suffix read).trans due.suffix) first
    dsimp only
    cases read' : readTerms scope p.tree p.text p.rest with
    | error m => rw [read'] at others; exact others
    | ok whole => rw [read'] at others; exact others

private theorem readFirstArgument_blames (member : opener ∈ all)
    (opening : opener.lexeme = .symbol .opening) (below : BlamesBelow scope all tokens.length)
    (due : OperandDue all tokens) :
    Blamed scope all (fun _ => True) (readFirstArgument scope opener tokens) := by
  have first := readSum_blames below due
  rw [readFirstArgument]
  cases read : readSum scope tokens with
  | error m => rw [read] at first; exact first
  | ok p =>
    rw [read] at first
    have suffix : p.rest <:+ all := (readSum_suffix read).trans due.suffix
    dsimp only
    split
    next position after rest =>
      rw [rest] at suffix
      have others := below.arguments after opener member opening (by
        have := p.shorter; simp only [rest, List.length_cons] at this; omega)
        (operandDue_of_symbol suffix rfl (by decide))
      cases read' : readFirstArgument scope opener after with
      | error m => rw [read'] at others; exact others
      | ok p' => trivial
    next others =>
      have closing : Blamed scope all (fun _ => True) (closed opener p.rest) :=
        closed_blames member opening suffix first
      cases shut : closed opener p.rest with
      | error m => rw [shut] at closing; exact closing
      | ok rest => trivial

end Readers

variable (scope all) in
/-- All readers, by induction on the number of tokens. -/
theorem blamesBelow (n : Nat) : BlamesBelow scope all n := by
  -- The list as a whole stays the same: what is due at its last tokens is decided by what stands in
  -- front of them.
  induction n using Nat.strongRecOn with
  | _ n ih =>
    exact {
      sum := fun _ shorter => readSum_blames (ih _ shorter)
      terms := fun _ tree text shorter => readTerms_blames tree text (ih _ shorter)
      product := fun _ shorter => readProduct_blames (ih _ shorter)
      factors := fun _ tree text shorter => readFactors_blames tree text (ih _ shorter)
      signed := fun _ shorter => readSigned_blames (ih _ shorter)
      exponent := fun _ _ member symbol shorter => readExponent_blames member symbol (ih _ shorter)
      arguments := fun _ _ member opening shorter =>
        readFirstArgument_blames member opening (ih _ shorter) }

/-- Reading fails for want of tokens, or with a mistake that is blamed on one of them or on the
end. -/
theorem readTokens_blames {m : Mistake} (refused : readTokens scope tokens = .error m) :
    tokens = [] ∧ m = ⟨.empty, none⟩ ∨ tokens ≠ [] ∧ m.Blames scope.ending tokens := by
  rw [readTokens] at refused
  split at refused
  next empty =>
    cases refused
    exact .inl ⟨List.isEmpty_iff.1 empty, rfl⟩
  next nonempty =>
    refine .inr ⟨by simpa using nonempty, ?_⟩
    have whole := readSum_blames (blamesBelow scope tokens tokens.length) (operandDue_self tokens)
    cases read : readSum scope tokens with
    | error m' =>
      rw [read] at whole refused
      cases refused
      exact whole
    | ok p =>
      rw [read] at whole refused
      have suffix := readSum_suffix read
      have noStar : NoStar p.rest := whole
      dsimp only at refused
      split at refused
      · cases refused
      next t after rest =>
        rw [rest] at suffix noStar
        have member : t ∈ tokens := suffix.subset List.mem_cons_self
        split at refused
        next closing =>
          cases refused
          rw [Token.isSymbol_iff] at closing
          exact blames_of_mem member closing (by simp [closing])
        · -- no operand is due after a whole sum, but a product sign would have been read on
          cases refused
          obtain ⟨flaw, same, fits⟩ := fits_strayToken t
          exact same ▸ blames_of_mem member fits (noStar t rfl)

end CurveBoard
