import CurveBoard.Proofs.Formula.FullSpelling

/-!
# Formulas that are kept as they are written

Only powers and factorials are written in another form than they are read in. A formula without them
is the text of its tokens, spelled in full, from left to right; if nothing in it has to be spelled
out, it is the source without its blanks.
-/
namespace CurveBoard

/-- Without carets and factorial signs the text of a derivation is that of its word. -/
theorem Derivation.text_eq_word {names : List (List Char)} {part : Part} (d : Derivation names part)
    (noCaret : .symbol .caret ∉ d.word) (noBang : .symbol .bang ∉ d.word) :
    d.text = d.word.flatMap Lexeme.text := by
  induction d with
  | factorial power signs power_text =>
    -- every sign would be in the word
    cases signs with
    | zero =>
      rw [word, List.replicate_zero, List.append_nil] at noCaret noBang ⊢
      exact power_text noCaret noBang
    | succ signs => simp [word] at noBang
  | raised base exponent => simp [word] at noCaret
  | _ => simp_all [word, text, Lexeme.text, Symbol.char]

section Tokens

variable {tokens : List Token} {s : Symbol}

/-- Product signs are the only symbols that are spelled out. -/
theorem symbol_notMem_spelledOut (other : s ≠ .star)
    (none : ∀ t ∈ spellInverses tokens, t.lexeme ≠ .symbol s) :
    .symbol s ∉ lexemes (spelledOut tokens) := by
  intro member
  obtain ⟨t, found, same⟩ := List.mem_map.1 member
  obtain ⟨t', found', rfl⟩ := List.mem_map.1 found
  obtain ⟨before, after, split⟩ := List.append_of_mem found'
  rcases lexeme_spellLogarithm t' with same' | ⟨-, long⟩
  · have kept := same'.symm.trans same
    rcases origin_spellProducts split with written | ⟨star, -⟩
    · exact none t' written kept
    · exact other (Lexeme.symbol.inj (kept.symm.trans star))
  · cases long.symm.trans same

/-- Nothing is spelled out where nothing is left out. -/
theorem spelledOut_of_free (products : ProductFree tokens) (inverses : InverseFree (lexemes tokens))
    (long : ∀ t ∈ tokens, t.lexeme ≠ .name "log".toList) : spelledOut tokens = tokens := by
  rw [spelledOut, spellInverses_of_inverseFree inverses, spellProducts_of_productFree products]
  exact (List.map_congr_left fun t member => spellLogarithm_eq_self (long t member)).trans
    (List.map_id _)

end Tokens

namespace Formula

variable {names : List String} {source : String} {formula : Formula} {tokens : List Token}

/-- A formula without powers and factorials is rewritten as the texts of its tokens in full
spelling, in their order. It is not changed at all if no product sign and no inverse has been left
out and no logarithm is short. -/
theorem rewritten_verbatim (parsed : parse names source = .ok formula)
    (scanned : scan source.toList = .ok tokens)
    (plain : ∀ t ∈ spellInverses tokens, t.lexeme ≠ .symbol .caret ∧
      t.lexeme ≠ .symbol .bang) :
    formula.rewritten = String.ofList ((spelledOut tokens).flatMap Token.text) ∧
      (ProductFree tokens → InverseFree (lexemes tokens) →
        (∀ t ∈ tokens, t.lexeme ≠ .name "log".toList) →
          formula.rewritten = String.ofList (withoutBlanks source.toList)) := by
  obtain ⟨tokens', scanned', d, same, -, text_eq⟩ := parse_sound parsed
  cases scanned.symm.trans scanned'
  have noCaret := symbol_notMem_spelledOut (by decide) fun t member => (plain t member).1
  have noBang := symbol_notMem_spelledOut (by decide) fun t member => (plain t member).2
  have verbatim : d.text = (spelledOut tokens).flatMap Token.text := by
    rw [d.text_eq_word (same ▸ noCaret) (same ▸ noBang), same, List.flatMap_map]
    rfl
  rw [← text_eq, verbatim]
  refine ⟨rfl, fun products inverses long => ?_⟩
  rw [spelledOut_of_free products inverses long, (scanFrom_eq_ok_iff.1 scanned).whole]

end Formula

namespace Derivation

/-- A function of the variable. -/
def ofArgument (f : NamedFunction) (accepted : f.accepts 1 = true) :
    Derivation (["x"].map String.toList) .operand :=
  .call f (.lastArgument (.ofSigned (.ofOperand (.variable ['x'] known_x noFunction_x)))) accepted

end Derivation

namespace Formula

/-- A product and an inverse that are spelled out, and a formula in which nothing has to be. -/
theorem rewritten_verbatim_arcsine :
    (∃ formula, parse ["x"] "2 sin^-1(x)" = .ok formula ∧ formula.rewritten = "2*arcsin(x)") ∧
      ∃ formula, parse ["x"] "sin( x )/2" = .ok formula ∧ formula.rewritten = "sin(x)/2" := by
  have arcsine : parse ["x"] "2 sin^-1(x)" = .ok _ := parse_of_word
    (.sum (.product (.ofOperand (.number ['2']))
      (.factor false (.ofOperand (.ofArgument (.circular true false .sine) rfl))
        .noFactor)) .noTerm)
    (by decide +kernel)
  have sine : parse ["x"] "sin( x )/2" = .ok _ := parse_of_word
    (.sum (.product (.ofOperand (.ofArgument (.circular false false .sine) rfl))
      (.factor true (.ofOperand (.number ['2'])) .noFactor)) .noTerm)
    (by decide +kernel)
  have scanned : scan "2 sin^-1(x)".toList =
      .ok [⟨.number ['2'], 0⟩, ⟨.name "sin".toList, 1⟩,
        ⟨.symbol .caret, 4⟩, ⟨.symbol .minus, 5⟩, ⟨.number ['1'], 6⟩,
        ⟨.symbol .opening, 7⟩, ⟨.name ['x'], 8⟩, ⟨.symbol .closing, 9⟩] := by
      decide +kernel
  have scanned' : scan "sin( x )/2".toList =
      .ok [⟨.name "sin".toList, 0⟩, ⟨.symbol .opening, 3⟩, ⟨.name ['x'], 4⟩,
        ⟨.symbol .closing, 5⟩, ⟨.symbol .slash, 6⟩, ⟨.number ['2'], 7⟩] := by
      decide +kernel
  refine ⟨⟨_, arcsine, ?_⟩, _, sine, ?_⟩
  · rw [(rewritten_verbatim arcsine scanned (by decide +kernel)).1]
    decide +kernel
  · rw [(rewritten_verbatim sine scanned' (by decide +kernel)).2]
    · decide +kernel
    · rw [ProductFree]
      decide +kernel
    · exact inverseFree_of_noCaret (by decide +kernel)
    · decide +kernel

end Formula

end CurveBoard
