import CurveBoard.Proofs.Formula.Grammar

/-!
# Unambiguity

No word has two derivations. More is true: of all that may follow, only what cannot continue a part
tells where the part ends, so two derivations of one part at the start of a text are the same and
leave the same text, unless what one of them leaves goes on with the part.
-/
namespace CurveBoard

/-- The loosest part that a symbol can be in between; parentheses that close and commas end all
parts. -/
def Symbol.looseness : Symbol → Nat
  | opening => 0
  | caret => 1
  | bang => 2
  | star | slash => 3
  | plus | minus => 4
  | closing | comma => 5

/-- Whether nothing that follows can belong to a part that binds so loosely. -/
def Ends (looseness : Nat) : List Lexeme → Prop
  | .symbol s :: _ => looseness < s.looseness
  | _ => True

theorem ends_caret {rest : List Lexeme} : Ends 0 (.symbol .caret :: rest) := by
  simp [Ends, Symbol.looseness]

theorem ends_closing {rest : List Lexeme} : Ends 4 (.symbol .closing :: rest) := by
  simp [Ends, Symbol.looseness]

theorem ends_comma {rest : List Lexeme} : Ends 4 (.symbol .comma :: rest) := by
  simp [Ends, Symbol.looseness]

theorem Ends.mono {m n : Nat} {rest : List Lexeme} (le : m ≤ n) (ends : Ends n rest) :
    Ends m rest := by
  match rest, ends with
  | [], _ => trivial
  | .number _ :: _, _ => trivial
  | .name _ :: _, _ => trivial
  | .symbol s :: _, ends => exact Nat.lt_of_le_of_lt le ends

@[simp] theorem Symbol.looseness_ofSign (negative : Bool) :
    (Symbol.ofSign negative).looseness = 4 := by
  cases negative <;> rfl

@[simp] theorem Symbol.looseness_ofDivision (division : Bool) :
    (Symbol.ofDivision division).looseness = 3 := by
  cases division <;> rfl

private theorem Symbol.ofSign_injective {b b' : Bool} (same : Symbol.ofSign b = Symbol.ofSign b') :
    b = b' := by
  cases b <;> cases b' <;> first | rfl | cases same

private theorem Symbol.ofDivision_injective {b b' : Bool}
    (same : Symbol.ofDivision b = Symbol.ofDivision b') : b = b' := by
  cases b <;> cases b' <;> first | rfl | cases same

theorem NamedFunction.ofLetters?_letters (f : NamedFunction) : ofLetters? f.letters = some f := by
  cases f with
  | circular inverse hyperbolic ratio => cases inverse <;> cases hyperbolic
    <;> cases ratio <;> decide
  | _ => decide

theorem NamedFunction.letters_injective {f g : NamedFunction} (same : f.letters = g.letters) :
    f = g := by
  have found := ofLetters?_letters f
  rw [same, ofLetters?_letters g] at found
  exact (Option.some.inj found).symm

/-- A name that is not found is the name of no function. -/
theorem NamedFunction.ne_letters {name : List Char} (noFunction : ofLetters? name = none)
    (f : NamedFunction) :
    name ≠ f.letters := by
  rintro rfl
  rw [ofLetters?_letters] at noFunction
  cases noFunction

theorem Constant.noFunction (c : Constant) : NamedFunction.ofLetters? c.letters = none := by
  cases c <;> decide

theorem Constant.letters_injective {c d : Constant} (same : c.letters = d.letters) : c = d := by
  cases c <;> cases d <;> first | rfl | exact absurd same (by decide)

/-- Whether an operand can start with a lexeme. -/
def Lexeme.StartsOperand : Lexeme → Prop
  | .symbol s => s = .opening
  | _ => True

namespace Derivation

variable {names : List (List Char)}

private theorem word_operand (d : Derivation names .operand) :
    ∃ l rest, d.word = l :: rest ∧ l.StartsOperand := by
  cases d <;> exact ⟨_, _, rfl, by simp [Lexeme.StartsOperand]⟩

theorem word_power (d : Derivation names .power) :
    ∃ l rest, d.word = l :: rest ∧ l.StartsOperand := by
  cases d with
  | bare operand => exact operand.word_operand
  | raised base exponent =>
    obtain ⟨l, rest, start, operand⟩ := base.word_operand
    exact ⟨l, _, by rw [word, start]; rfl, operand⟩

theorem word_factorial (d : Derivation names .factorial) :
    ∃ l rest, d.word = l :: rest ∧ l.StartsOperand := by
  cases d with
  | factorial power signs =>
    obtain ⟨l, rest, start, operand⟩ := power.word_power
    exact ⟨l, _, by rw [word, start]; rfl, operand⟩

theorem not_startsOperand_ofSign (negative : Bool) :
    ¬ (Lexeme.symbol (.ofSign negative)).StartsOperand := by
  cases negative <;> simp [Lexeme.StartsOperand, Symbol.ofSign]

/-- Further terms start with a sign, which no product goes on with. -/
theorem ends_terms (d : Derivation names .terms) {rest : List Lexeme} (ends : Ends 4 rest) :
    Ends 3 (d.word ++ rest) := by
  cases d with
  | noTerm => exact ends.mono (by decide)
  | term negative next others => simp [word, Ends]

theorem ends_factors (d : Derivation names .factors) {rest : List Lexeme} (ends : Ends 3 rest) :
    Ends 2 (d.word ++ rest) := by
  cases d with
  | noFactor => exact ends.mono (by decide)
  | factor division next others => simp [word, Ends]

theorem ends_factorialSigns (signs : Nat) {rest : List Lexeme} (ends : Ends 2 rest) :
    Ends 1 (List.replicate signs (.symbol .bang) ++ rest) := by
  cases signs with
  | zero => exact ends.mono (by decide)
  | succ signs => simp [List.replicate_succ, Ends, Symbol.looseness]

private theorem factorialSigns_unique {signs signs' : Nat} {rest rest' : List Lexeme}
    (ends : Ends 2 rest) (ends' : Ends 2 rest')
    (same : List.replicate signs (.symbol .bang) ++ rest =
      List.replicate signs' (.symbol .bang) ++ rest') :
    signs = signs' ∧ rest = rest' := by
  induction signs generalizing signs' with
  | zero =>
    cases signs' with
    | zero => exact ⟨rfl, same⟩
    | succ signs' =>
      -- what is left after the first signs would start with a sign
      have bang : rest = .symbol .bang :: (List.replicate signs' (.symbol .bang) ++ rest') := same
      rw [bang] at ends
      simp [Ends, Symbol.looseness] at ends
  | succ signs ih =>
    cases signs' with
    | zero =>
      have bang : .symbol .bang :: (List.replicate signs (.symbol .bang) ++ rest) = rest' := same
      rw [← bang] at ends'
      simp [Ends, Symbol.looseness] at ends'
    | succ signs' =>
      simp only [List.replicate_succ, List.cons_append, List.cons.injEq, true_and] at same
      obtain ⟨rfl, left⟩ := ih same
      exact ⟨rfl, left⟩

/-- No other derivation of the part starts the same text and leaves what does not go on with it. -/
def Unique : {part : Part} → Derivation names part → Prop
  | .arguments count, d => ∀ (count' : Nat) (d' : Derivation names (.arguments count'))
      (rest rest' : List Lexeme), d.word ++ rest = d'.word ++ rest' →
      (⟨count, d⟩ : (n : Nat) × Derivation names (.arguments n)) =
        ⟨count', d'⟩ ∧ rest = rest'
  | part, d => ∀ (d' : Derivation names part) (rest rest' : List Lexeme),
    Ends part.looseness rest →
      Ends part.looseness rest' → d.word ++ rest = d'.word ++ rest' → d = d' ∧ rest = rest'

theorem unique {part : Part} (d : Derivation names part) : d.Unique := by
  -- The other derivation and both remainders vary along the induction: inside a part, what follows
  -- is the rest of the part and what follows the part.
  induction d with
  | sum first others first_unique others_unique =>
    intro d' rest rest' ends ends' same
    cases d' with
    | sum first' others' =>
      simp only [word, List.append_assoc] at same
      obtain ⟨rfl, middle⟩ :=
        first_unique first' _ _ (others.ends_terms ends) (others'.ends_terms ends') same
      obtain ⟨rfl, left⟩ := others_unique others' _ _ ends ends' middle
      exact ⟨rfl, left⟩
  | noTerm =>
    intro d' rest rest' ends ends' same
    cases d' with
    | noTerm => exact ⟨rfl, same⟩
    | term negative next others =>
      -- a sign after a sum goes on with it
      have sign : rest = .symbol (.ofSign negative) :: (next.word ++ others.word ++ rest') := same
      simp [sign, Ends, Part.looseness] at ends
  | term negative next others next_unique others_unique =>
    intro d' rest rest' ends ends' same
    cases d' with
    | noTerm =>
      have sign : .symbol (.ofSign negative) :: (next.word ++ others.word ++ rest) = rest' := same
      simp [← sign, Ends, Part.looseness] at ends'
    | term negative' next' others' =>
      simp only [word, List.cons_append, List.append_assoc, List.cons.injEq,
        Lexeme.symbol.injEq] at same
      obtain ⟨sign, same⟩ := same
      obtain rfl := Symbol.ofSign_injective sign
      obtain ⟨rfl, middle⟩ :=
        next_unique next' _ _ (others.ends_terms ends) (others'.ends_terms ends') same
      obtain ⟨rfl, left⟩ := others_unique others' _ _ ends ends' middle
      exact ⟨rfl, left⟩
  | product first others first_unique others_unique =>
    intro d' rest rest' ends ends' same
    cases d' with
    | product first' others' =>
      simp only [word, List.append_assoc] at same
      obtain ⟨rfl, middle⟩ :=
        first_unique first' _ _ (others.ends_factors ends) (others'.ends_factors ends') same
      obtain ⟨rfl, left⟩ := others_unique others' _ _ ends ends' middle
      exact ⟨rfl, left⟩
  | noFactor =>
    intro d' rest rest' ends ends' same
    cases d' with
    | noFactor => exact ⟨rfl, same⟩
    | factor division next others =>
      have sign : rest = .symbol (.ofDivision division) :: (next.word ++ others.word ++ rest') :=
        same
      simp [sign, Ends, Part.looseness] at ends
  | factor division next others next_unique others_unique =>
    intro d' rest rest' ends ends' same
    cases d' with
    | noFactor =>
      have sign : .symbol (.ofDivision division) :: (next.word ++ others.word ++ rest) =
          rest' := same
      simp [← sign, Ends, Part.looseness] at ends'
    | factor division' next' others' =>
      simp only [word, List.cons_append, List.append_assoc, List.cons.injEq,
        Lexeme.symbol.injEq] at same
      obtain ⟨sign, same⟩ := same
      obtain rfl := Symbol.ofDivision_injective sign
      obtain ⟨rfl, middle⟩ :=
        next_unique next' _ _ (others.ends_factors ends) (others'.ends_factors ends') same
      obtain ⟨rfl, left⟩ := others_unique others' _ _ ends ends' middle
      exact ⟨rfl, left⟩
  | signed negative operand operand_unique =>
    intro d' rest rest' ends ends' same
    cases d' with
    | signed negative' operand' =>
      simp only [word, List.cons_append, List.cons.injEq, Lexeme.symbol.injEq] at same
      obtain rfl := Symbol.ofSign_injective same.1
      obtain ⟨rfl, left⟩ := operand_unique operand' _ _ ends ends' same.2
      exact ⟨rfl, left⟩
    | unsigned inner' =>
      -- a factorial starts with an operand, and no operand starts with a sign
      obtain ⟨l, tail, start, operand⟩ := inner'.word_factorial
      simp only [word, start, List.cons_append, List.cons.injEq] at same
      exact absurd (same.1 ▸ operand) (not_startsOperand_ofSign negative)
  | unsigned inner inner_unique =>
    intro d' rest rest' ends ends' same
    cases d' with
    | signed negative' operand' =>
      obtain ⟨l, tail, start, operand⟩ := inner.word_factorial
      simp only [word, start, List.cons_append, List.cons.injEq] at same
      exact absurd (same.1 ▸ operand) (not_startsOperand_ofSign negative')
    | unsigned inner' =>
      obtain ⟨rfl, left⟩ := inner_unique inner' _ _ ends ends' same
      exact ⟨rfl, left⟩
  | factorial power signs power_unique =>
    intro d' rest rest' ends ends' same
    cases d' with
    | factorial power' signs' =>
      simp only [word, List.append_assoc] at same
      obtain ⟨rfl, middle⟩ := power_unique power' _ _ (ends_factorialSigns signs ends)
        (ends_factorialSigns signs' ends') same
      obtain ⟨rfl, left⟩ := factorialSigns_unique ends ends' middle
      exact ⟨rfl, left⟩
  | bare operand operand_unique =>
    intro d' rest rest' ends ends' same
    cases d' with
    | bare operand' =>
      obtain ⟨rfl, left⟩ :=
        operand_unique operand' _ _ (ends.mono (by decide)) (ends'.mono (by decide)) same
      exact ⟨rfl, left⟩
    | raised base' exponent' =>
      -- the operands are the same, so the caret would be what follows the power
      simp only [word, List.append_assoc, List.cons_append] at same
      obtain ⟨rfl, left⟩ := operand_unique base' _ _ (ends.mono (by decide)) ends_caret same
      simp [left, Ends, Part.looseness, Symbol.looseness] at ends
  | raised base exponent base_unique exponent_unique =>
    intro d' rest rest' ends ends' same
    cases d' with
    | bare operand' =>
      simp only [word, List.append_assoc, List.cons_append] at same
      obtain ⟨rfl, left⟩ := base_unique operand' _ _ ends_caret (ends'.mono (by decide)) same
      simp [← left, Ends, Part.looseness, Symbol.looseness] at ends'
    | raised base' exponent' =>
      simp only [word, List.append_assoc, List.cons_append] at same
      obtain ⟨rfl, middle⟩ := base_unique base' _ _ ends_caret ends_caret same
      obtain ⟨rfl, left⟩ := exponent_unique exponent' _ _ ends ends' (List.cons.inj middle).2
      exact ⟨rfl, left⟩
  | signedExponent negative exponent exponent_unique =>
    intro d' rest rest' ends ends' same
    cases d' with
    | signedExponent negative' exponent' =>
      simp only [word, List.cons_append, List.cons.injEq, Lexeme.symbol.injEq] at same
      obtain rfl := Symbol.ofSign_injective same.1
      obtain ⟨rfl, left⟩ := exponent_unique exponent' _ _ ends ends' same.2
      exact ⟨rfl, left⟩
    | unsignedExponent power' =>
      obtain ⟨l, tail, start, operand⟩ := power'.word_power
      simp only [word, start, List.cons_append, List.cons.injEq] at same
      exact absurd (same.1 ▸ operand) (not_startsOperand_ofSign negative)
  | unsignedExponent power power_unique =>
    intro d' rest rest' ends ends' same
    cases d' with
    | signedExponent negative' exponent' =>
      obtain ⟨l, tail, start, operand⟩ := power.word_power
      simp only [word, start, List.cons_append, List.cons.injEq] at same
      exact absurd (same.1 ▸ operand) (not_startsOperand_ofSign negative')
    | unsignedExponent power' =>
      obtain ⟨rfl, left⟩ := power_unique power' _ _ ends ends' same
      exact ⟨rfl, left⟩
  | number digits =>
    intro d' rest rest' ends ends' same
    cases d' <;> simp_all [word]
  | «variable» name known noFunction =>
    intro d' rest rest' ends ends' same
    cases d' with
    | call f' arguments' accepted' =>
      simp only [word, List.cons_append, List.cons.injEq, Lexeme.name.injEq] at same
      exact absurd same.1 (NamedFunction.ne_letters noFunction f')
    | constant c' unhidden' =>
      -- a constant of this name is hidden by the variable
      simp only [word, List.cons_append, List.cons.injEq, Lexeme.name.injEq] at same
      exact absurd (same.1 ▸ known) unhidden'
    | _ => simp_all [word]
  | constant c unhidden =>
    intro d' rest rest' ends ends' same
    cases d' with
    | constant c' unhidden' =>
      simp only [word, List.cons_append, List.cons.injEq, Lexeme.name.injEq,
        List.nil_append] at same
      obtain rfl := Constant.letters_injective same.1
      exact ⟨rfl, same.2⟩
    | call f' arguments' accepted' =>
      simp only [word, List.cons_append, List.cons.injEq, Lexeme.name.injEq] at same
      exact absurd same.1 (NamedFunction.ne_letters c.noFunction f')
    | «variable» name' known' noFunction' =>
      simp only [word, List.cons_append, List.cons.injEq, Lexeme.name.injEq] at same
      exact absurd (same.1 ▸ known') unhidden
    | _ => simp_all [word]
  | group inner inner_unique =>
    intro d' rest rest' ends ends' same
    cases d' with
    | group inner' =>
      simp only [word, List.cons_append, List.append_assoc, List.cons.injEq, true_and,
        List.nil_append] at same
      obtain ⟨rfl, left⟩ := inner_unique inner' _ _ ends_closing ends_closing same
      exact ⟨rfl, (List.cons.inj left).2⟩
    | _ => simp_all [word]
  | call f arguments accepted arguments_unique =>
    intro d' rest rest' ends ends' same
    cases d' with
    | «variable» name' known' noFunction' =>
      simp only [word, List.cons_append, List.cons.injEq, Lexeme.name.injEq] at same
      exact absurd same.1.symm (NamedFunction.ne_letters noFunction' f)
    | constant c' unhidden' =>
      simp only [word, List.cons_append, List.cons.injEq, Lexeme.name.injEq] at same
      exact absurd same.1.symm (NamedFunction.ne_letters c'.noFunction f)
    | call f' arguments' accepted' =>
      simp only [word, List.cons_append, List.cons.injEq, Lexeme.name.injEq, true_and] at same
      obtain rfl := NamedFunction.letters_injective same.1
      obtain ⟨equal, left⟩ := arguments_unique _ arguments' _ _ same.2
      cases equal
      exact ⟨rfl, left⟩
    | _ => simp_all [word]
  | lastArgument last last_unique =>
    intro count' d' rest rest' same
    cases d' with
    | lastArgument last' =>
      simp only [word, List.append_assoc, List.cons_append, List.nil_append] at same
      obtain ⟨rfl, left⟩ := last_unique last' _ _ ends_closing ends_closing same
      exact ⟨rfl, (List.cons.inj left).2⟩
    | argument first' others' =>
      -- the first arguments are the same, but a parenthesis is no comma
      simp only [word, List.append_assoc, List.cons_append, List.nil_append] at same
      obtain ⟨rfl, left⟩ := last_unique first' _ _ ends_closing ends_comma same
      cases left
  | argument first others first_unique others_unique =>
    intro count' d' rest rest' same
    cases d' with
    | lastArgument last' =>
      simp only [word, List.append_assoc, List.cons_append, List.nil_append] at same
      obtain ⟨rfl, left⟩ := first_unique last' _ _ ends_comma ends_closing same
      cases left
    | argument first' others' =>
      simp only [word, List.append_assoc, List.cons_append] at same
      obtain ⟨rfl, middle⟩ := first_unique first' _ _ ends_comma ends_comma same
      obtain ⟨equal, left⟩ := others_unique _ others' _ _ (List.cons.inj middle).2
      cases equal
      exact ⟨rfl, left⟩

/-- No word has two derivations. -/
theorem word_injective {d d' : Derivation names .sum} (same : d.word = d'.word) : d = d' :=
  (d.unique d' [] [] trivial trivial (by rw [same])).1

end Derivation

end CurveBoard
