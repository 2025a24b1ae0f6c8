import CurveBoard.Proofs.Formula.Scanning
import CurveBoard.Proofs.Formula.Spelling

/-!
# Scanning a text again

No lexeme goes on with a symbol. So a text that is put together from lexemes falls apart into the
same lexemes if after every number and every name comes a symbol. The passes that spell a formula in
full then leave it alone if it has no caret, no factors side by side, and no logarithm without a
base.
-/
namespace CurveBoard

/-- Whether a lexeme may follow another in a formula that is written in full: a function's name goes
before a parenthesis, and no operand starts right after another. -/
def Adjoins (before after : Lexeme) : Prop :=
  match before with
  | .number _ => ¬ after.StartsOperand
  | .name letters =>
    if (NamedFunction.ofLetters? letters).isSome then after = .symbol .opening
      else ¬ after.StartsOperand
  | .symbol s => s = .closing → ¬ after.StartsOperand

private theorem Lexeme.symbol_of_not_startsOperand {l : Lexeme} (other : ¬ l.StartsOperand) :
    ∃ s, l = .symbol s ∧ s ≠ .opening := by
  cases l with
  | symbol s => exact ⟨s, rfl, other⟩
  | _ => exact absurd trivial other

/-! ### The whole text -/

/-- What comes after a number or a name starts with a symbol. -/
theorem Adjoins.symbol {l l' : Lexeme} (adjoins : Adjoins l l') :
    (∃ s, l = .symbol s) ∨ ∃ s, l' = .symbol s := by
  cases l with
  | number digits =>
    obtain ⟨s, symbol, -⟩ := Lexeme.symbol_of_not_startsOperand adjoins
    exact .inr ⟨s, symbol⟩
  | name letters =>
    simp only [Adjoins] at adjoins
    split at adjoins
    · exact .inr ⟨_, adjoins⟩
    · obtain ⟨s, symbol, -⟩ := Lexeme.symbol_of_not_startsOperand adjoins
      exact .inr ⟨s, symbol⟩
  | symbol s => exact .inl ⟨s, rfl⟩

private theorem Lexeme.not_goesOn_symbol (l : Lexeme) (s : Symbol) : ¬ l.GoesOn s.char := by
  cases l with
  | number digits => simp [GoesOn, isDecimalDigit_symbol, char_ne_point]
  | name letters => simp [GoesOn, isAlpha_symbol]
  | symbol s' => exact id

theorem scanFrom_texts {word : List Lexeme} (valid : ∀ l ∈ word, l.Valid)
    (apart : word.IsChain Adjoins) (position : Nat) :
    ∃ tokens, scanFrom position (word.flatMap Lexeme.text) = .ok tokens ∧
      lexemes tokens = word := by
  simp only [scanFrom_eq_ok_iff]
  induction word generalizing position with
  | nil => exact ⟨[], .nil position, rfl⟩
  | cons l others ih =>
    obtain ⟨valid_head, valid_others⟩ := List.forall_mem_cons.1 valid
    -- a lexeme that could go on is followed by the end or by a symbol, with which nothing goes on
    have stop : ∀ c ∈ (others.flatMap Lexeme.text).head?, ¬ l.GoesOn c := by
      cases others with
      | nil => simp
      | cons l' later =>
        rcases (List.isChain_cons_cons.1 apart).1.symbol with ⟨s, rfl⟩ | ⟨s, rfl⟩
        · exact fun c _ => id
        · rintro c ⟨⟩
          exact l.not_goesOn_symbol s
    obtain ⟨tokens, cut, same⟩ := ih valid_others apart.tail (position + l.text.length)
    exact ⟨⟨l, position⟩ :: tokens, .cons valid_head stop cut, by simp [same]⟩

/-! ### The passes over the tokens -/

/-- A lexeme of a text without blanks that is not the short name of a function with a longer one. -/
structure Lexeme.Lasting (l : Lexeme) : Prop where
  valid : l.Valid
  unblank : l.text.any isBlank = false
  noLogarithm : l ≠ .name "log".toList

theorem lasting_symbol (s : Symbol) : (Lexeme.symbol s).Lasting :=
  ⟨trivial, by cases s <;> decide, by simp⟩

/-- The one function whose name is not all letters cannot be found by its name. -/
theorem lasting_function {f : NamedFunction} (other : f ≠ .decimalLogarithm) :
    (Lexeme.name f.letters).Lasting := by
  cases f with
  | circular inverse hyperbolic ratio =>
    cases inverse <;> cases hyperbolic <;> cases ratio <;>
      exact ⟨⟨by decide, List.all_eq_true.1 (by decide)⟩, by decide, by decide⟩
  | decimalLogarithm => exact absurd rfl other
  | _ => exact ⟨⟨by decide, List.all_eq_true.1 (by decide)⟩, by decide, by decide⟩

section Passes

variable {tokens : List Token}

variable {holds : Lexeme → Prop}

/-- What holds of all lexemes and of the names of inverses holds after the first pass. -/
theorem spellInverses_forall
    (inverses : ∀ hyperbolic ratio,
      holds (.name (NamedFunction.circular true hyperbolic ratio).letters))
    (all : ∀ t ∈ tokens, holds t.lexeme) : ∀ t ∈ spellInverses tokens, holds t.lexeme := by
  intro t member
  obtain ⟨o, written, -, same | ⟨hyperbolic, ratio, name⟩⟩ := origin_spellInverses member
  · exact same ▸ all o written
  · exact name ▸ inverses hyperbolic ratio

private theorem spellProducts_forall (star : holds (.symbol .star))
    (all : ∀ t ∈ tokens, holds t.lexeme) :
    ∀ t ∈ spellProducts tokens, holds t.lexeme := by
  intro t member
  obtain ⟨before, after, split⟩ := List.append_of_mem member
  rcases origin_spellProducts split with kept | ⟨sign, -⟩
  · exact all t kept
  · exact sign ▸ star

/-- What holds of all lexemes holds of those of the full spelling, if it does of those that the
passes add. -/
theorem spelledOut_forall
    (inverses : ∀ hyperbolic ratio,
      holds (.name (NamedFunction.circular true hyperbolic ratio).letters))
    (star : holds (.symbol .star))
    (logarithm : holds (.name NamedFunction.decimalLogarithm.letters))
    (all : ∀ t ∈ tokens, holds t.lexeme) : ∀ t ∈ spelledOut tokens, holds t.lexeme := by
  intro t member
  obtain ⟨t', member', rfl⟩ := List.mem_map.1 member
  unfold spellLogarithm
  split
  · exact logarithm
  · exact spellProducts_forall star (spellInverses_forall inverses all) t' member'

private theorem spellLogarithm_lasting {t : Token} (lasting : t.lexeme.Lasting) :
    spellLogarithm t = t :=
  spellLogarithm_eq_self lasting.noLogarithm

theorem spelledOut_lasting (lasting : ∀ t ∈ tokens, t.lexeme.Lasting) :
    ∀ t ∈ spelledOut tokens, t.lexeme.Lasting := by
  intro t member
  obtain ⟨t', member', rfl⟩ := List.mem_map.1 member
  have inverses (hyperbolic : Bool) (ratio : Ratio) :=
    lasting_function (f := .circular true hyperbolic ratio) (by simp)
  -- the last pass finds no name that it would replace
  have lasting' :=
    spellProducts_forall (lasting_symbol .star) (spellInverses_forall inverses lasting) t' member'
  exact (spellLogarithm_lasting lasting').symm ▸ lasting'

private theorem spellInverses_eq_self (noCaret : ∀ t ∈ tokens, t.lexeme ≠ .symbol .caret) :
    spellInverses tokens = tokens :=
  spellInverses_of_inverseFree (inverseFree_of_noCaret fun member => by
    obtain ⟨t, found, same⟩ := List.mem_map.1 member
    exact noCaret t found same)

private theorem productDue_eq_false {before after : Token}
    (adjoins : Adjoins before.lexeme after.lexeme) :
    productDue before after = false := by
  rw [← Bool.not_eq_true, productDue_iff]
  rintro ⟨ends, starts, -⟩
  revert adjoins ends
  cases before.lexeme with
  | number digits => exact fun other _ => other starts
  | name letters =>
    -- of the names, only Euler's number takes a product sign after it
    rintro adjoins rfl
    rw [Adjoins, Constant.noFunction] at adjoins
    exact adjoins starts
  | symbol s => exact fun other closing => other closing starts

private theorem spellProducts_eq_self (apart : (lexemes tokens).IsChain Adjoins) :
    spellProducts tokens = tokens :=
  spellProducts_of_productFree (((List.isChain_map _).1 apart).imp fun _ _ => productDue_eq_false)

/-- No pass changes what is spelled in full. -/
theorem spelledOut_eq_self (noCaret : ∀ t ∈ tokens, t.lexeme ≠ .symbol .caret)
    (apart : (lexemes tokens).IsChain Adjoins) (lasting : ∀ t ∈ tokens, t.lexeme.Lasting) :
    spelledOut tokens = tokens := by
  -- Each pass has its own reason: no suffix without a caret, no product sign where operands stand
  -- apart, and no short logarithm among what lasts.
  rw [spelledOut, spellInverses_eq_self noCaret, spellProducts_eq_self apart]
  exact (List.map_congr_left fun t member => spellLogarithm_lasting (lasting t member)).trans
    (List.map_id _)

end Passes

end CurveBoard
