import CurveBoard.Formula.Compiled
import CurveBoard.Proofs.Formula.Rescanning

/-!
# The text in full

The reader writes a formula in full without adding parentheses. That is enough: what it writes is
the text of another derivation, in which every power and every factorial is a call, and scanning the
text finds the word of that derivation again. So the text in full is read as the same formula with
calls for powers, has the same values, and is its own text in full.
-/
namespace CurveBoard

namespace Tree

mutual
/-- The tree with every power as a call. -/
def powersAsCalls : Tree → Tree
  | number value => number value
  | constant c => constant c
  | free name => free name
  | signed negative operand => signed negative operand.powersAsCalls
  | binary .raise base exponent => call .power [base.powersAsCalls, exponent.powersAsCalls]
  | binary operation left right => binary operation left.powersAsCalls right.powersAsCalls
  | call f arguments => call f (powersAsCallsInAll arguments)

def powersAsCallsInAll : List Tree → List Tree
  | [] => []
  | t :: rest => t.powersAsCalls :: powersAsCallsInAll rest
end

mutual

/-- A power is the same number whichever way it is written. -/
theorem evaluate?_powersAsCalls (dice : Dice) (input : Nested Float) :
    (t : Tree) → t.powersAsCalls.evaluate? dice input = t.evaluate? dice input
  | number value => by rw [powersAsCalls]
  | constant c => by rw [powersAsCalls]
  | free name => by rw [powersAsCalls]
  | signed negative operand => by
    rw [powersAsCalls, evaluate?, evaluate?, evaluate?_powersAsCalls dice input operand]
  | binary operation left right => by
    have left_eq := evaluate?_powersAsCalls ((dice.part 1).part 0) input left
    have right_eq := evaluate?_powersAsCalls (((dice.part 1).part 1).part 0) input right
    cases operation with
    | raise =>
      -- the operands take their dice as if they were arguments
      simp only [powersAsCalls, evaluate?, evaluateAll?, left_eq, right_eq]
      cases evaluate? ((dice.part 1).part 0) input left with
      | none => rfl
      | some first => cases evaluate? (((dice.part 1).part 1).part 0) input right <;> rfl
    | _ => simp only [powersAsCalls, evaluate?, left_eq, right_eq]
  | call f arguments => by
    rw [powersAsCalls, evaluate?, evaluate?,
      evaluateAll?_powersAsCalls (dice.part 1) input arguments]

theorem evaluateAll?_powersAsCalls (dice : Dice) (input : Nested Float) :
    (arguments : List Tree) →
      evaluateAll? dice input (powersAsCallsInAll arguments) = evaluateAll? dice input arguments
  | [] => by rw [powersAsCallsInAll]
  | t :: rest => by
    rw [powersAsCallsInAll, evaluateAll?, evaluateAll?,
      evaluate?_powersAsCalls (dice.part 0) input t,
      evaluateAll?_powersAsCalls (dice.part 1) input rest]

end

private theorem powersAsCalls_sign (negative : Bool) (left right : Tree) :
    (binary (.ofSign negative) left right).powersAsCalls =
      binary (.ofSign negative) left.powersAsCalls right.powersAsCalls := by
  cases negative <;> simp [Operation.ofSign, powersAsCalls]

private theorem powersAsCalls_division (division : Bool) (left right : Tree) :
    (binary (.ofDivision division) left right).powersAsCalls =
      binary (.ofDivision division) left.powersAsCalls right.powersAsCalls := by
  cases division <;> simp [Operation.ofDivision, powersAsCalls]

end Tree

/-- The part that is written for a part: calls are operands, and what they take starts anew. -/
@[reducible] def Part.inFull : Part → Part
  | factorial | power => operand
  | exponent => signed
  | part => part

namespace Derivation

variable {names : List (List Char)}

/-- An operand where a sign could be. -/
def ofOperand (d : Derivation names .operand) : Derivation names .signed :=
  unsigned (factorial (bare d) 0)

/-- A part with all its signs where a sum could be. -/
def ofSigned (d : Derivation names .signed) : Derivation names .sum :=
  sum (product d noFactor) noTerm

/-- The derivation of the text in full. -/
def inFull : {part : Part} → Derivation names part → Derivation names part.inFull
  | _, sum first others => sum first.inFull others.inFull
  | _, noTerm => noTerm
  | _, term negative next others => term negative next.inFull others.inFull
  | _, product first others => product first.inFull others.inFull
  | _, noFactor => noFactor
  | _, factor division next others => factor division next.inFull others.inFull
  | _, signed negative operand => signed negative operand.inFull
  | _, unsigned inner => ofOperand inner.inFull
  | _, factorial power signs =>
    (fun d => call .factorial (lastArgument (ofSigned (ofOperand d))) rfl)^[signs] power.inFull
  | _, bare operand => operand.inFull
  | _, raised base exponent =>
    call .power (argument (ofSigned (ofOperand base.inFull))
      (lastArgument (ofSigned exponent.inFull))) rfl
  | _, signedExponent negative exponent => signed negative exponent.inFull
  | _, unsignedExponent power => ofOperand power.inFull
  | _, number digits => number digits
  | _, «variable» name known noFunction => «variable» name known noFunction
  | _, constant c unhidden => constant c unhidden
  | _, group inner => group inner.inFull
  | _, call f arguments accepted => call f arguments.inFull accepted
  | _, lastArgument last => lastArgument last.inFull
  | _, argument first others => argument first.inFull others.inFull

section Text

@[simp] theorem text_ofOperand (d : Derivation names .operand) : d.ofOperand.text = d.text := rfl

@[simp] theorem text_ofSigned (d : Derivation names .signed) : d.ofSigned.text = d.text := by
  simp [ofSigned, text]

@[simp] theorem word_ofOperand (d : Derivation names .operand) : d.ofOperand.word = d.word := by
  simp [ofOperand, word]

@[simp] theorem word_ofSigned (d : Derivation names .signed) : d.ofSigned.word = d.word := by
  simp [ofSigned, word]

/-- Writing a formula in full twice is no different from writing it in full once. -/
theorem text_inFull {part : Part} (d : Derivation names part) : d.inFull.text = d.text := by
  induction d with
  | factorial power signs ih =>
    rw [inFull, text]
    -- one call around the other, as many as there are signs
    induction signs with
    | zero => exact ih
    | succ signs ih_signs =>
      rw [Function.iterate_succ_apply', Function.iterate_succ_apply', ← ih_signs]
      simp [text, callText]
  | raised base exponent base_ih exponent_ih => simp [inFull, text, callText, base_ih, exponent_ih]
  | _ => simp_all [inFull, text]

/-- The text in full is the text of the lexemes that its derivation derives. -/
theorem word_inFull {part : Part} (d : Derivation names part) :
    d.inFull.word.flatMap Lexeme.text = d.text := by
  induction d with
  | factorial power signs ih =>
    rw [inFull, text]
    induction signs with
    | zero => exact ih
    | succ signs ih_signs =>
      rw [Function.iterate_succ_apply', Function.iterate_succ_apply', ← ih_signs]
      simp [word, callText, Lexeme.text, Symbol.char]
  | raised base exponent base_ih exponent_ih =>
    simp [inFull, word, text, callText, Lexeme.text, Symbol.char, base_ih, exponent_ih]
  | _ => simp_all [inFull, word, text, Lexeme.text, Symbol.char]

end Text

/-- What becomes of the meaning of a part when powers are written as calls. -/
def PowersAsCalls : {part : Part} → Derivation names part → Prop
  | .terms, d => ∀ left, d.inFull.tree left.powersAsCalls = (d.tree left).powersAsCalls
  | .factors, d => ∀ left, d.inFull.tree left.powersAsCalls = (d.tree left).powersAsCalls
  | .arguments _, d => d.inFull.tree = Tree.powersAsCallsInAll d.tree
  | .sum, d => d.inFull.tree = d.tree.powersAsCalls
  | .product, d => d.inFull.tree = d.tree.powersAsCalls
  | .signed, d => d.inFull.tree = d.tree.powersAsCalls
  | .factorial, d => d.inFull.tree = d.tree.powersAsCalls
  | .power, d => d.inFull.tree = d.tree.powersAsCalls
  | .exponent, d => d.inFull.tree = d.tree.powersAsCalls
  | .operand, d => d.inFull.tree = d.tree.powersAsCalls

@[simp] theorem tree_ofSigned (d : Derivation names .signed) : d.ofSigned.tree = d.tree := rfl

private theorem tree_inFull {part : Part} (d : Derivation names part) : d.PowersAsCalls := by
  -- Further terms and factors mean functions of what stands before them, which has been rewritten
  -- already.
  induction d with
  | sum first others first_eq others_eq =>
    rw [PowersAsCalls, inFull, tree, tree, first_eq]
    exact others_eq first.tree
  | noTerm => exact fun left => rfl
  | term negative next others next_eq others_eq =>
    intro left
    rw [inFull, tree, tree, ← others_eq, Tree.powersAsCalls_sign, next_eq]
  | product first others first_eq others_eq =>
    rw [PowersAsCalls, inFull, tree, tree, first_eq]
    exact others_eq first.tree
  | noFactor => exact fun left => rfl
  | factor division next others next_eq others_eq =>
    intro left
    rw [inFull, tree, tree, ← others_eq, Tree.powersAsCalls_division, next_eq]
  | factorial power signs power_eq =>
    rw [PowersAsCalls, inFull, tree]
    induction signs with
    | zero => exact power_eq
    | succ signs ih =>
      rw [Function.iterate_succ_apply', Function.iterate_succ_apply', Tree.powersAsCalls,
        Tree.powersAsCallsInAll, Tree.powersAsCallsInAll, ← ih]
      rfl
  | raised base exponent base_eq exponent_eq =>
    rw [PowersAsCalls, tree, Tree.powersAsCalls, ← base_eq, ← exponent_eq]
    rfl
  | signed negative operand operand_eq =>
    rw [PowersAsCalls, inFull, tree, tree, Tree.powersAsCalls, operand_eq]
  | signedExponent negative exponent exponent_eq =>
    rw [PowersAsCalls, inFull, tree, tree, Tree.powersAsCalls, exponent_eq]
  | unsigned inner inner_eq => exact inner_eq
  | bare operand operand_eq => exact operand_eq
  | unsignedExponent power power_eq => exact power_eq
  | number digits => simp only [PowersAsCalls, inFull, tree, Tree.powersAsCalls]
  | «variable» name known noFunction =>
    simp only [PowersAsCalls, inFull, tree, Tree.powersAsCalls]
  | constant c unhidden => simp only [PowersAsCalls, inFull, tree, Tree.powersAsCalls]
  | group inner inner_eq => exact inner_eq
  | call f arguments accepted arguments_eq =>
    rw [PowersAsCalls, inFull, tree, tree, Tree.powersAsCalls, arguments_eq]
  | lastArgument last last_eq =>
    rw [PowersAsCalls, inFull, tree, tree, last_eq]
    rfl
  | argument first others first_eq others_eq =>
    rw [PowersAsCalls, inFull, tree, tree, first_eq, others_eq]
    rfl

/-! ### What stands side by side -/

/-- Whether no operand starts here. -/
def NoOperandStarts (rest : List Lexeme) : Prop := ∀ l ∈ rest.head?, ¬ l.StartsOperand

private theorem noOperandStarts_cons {s : Symbol} (other : s ≠ .opening) (rest : List Lexeme) :
    NoOperandStarts (.symbol s :: rest) := by
  simpa [NoOperandStarts, Lexeme.StartsOperand] using other

private theorem isChain_symbol {s : Symbol} {rest : List Lexeme} (apart : rest.IsChain Adjoins)
    (follows : s = .closing → NoOperandStarts rest) : (Lexeme.symbol s :: rest).IsChain Adjoins :=
  List.isChain_cons.2 ⟨fun l head closing => follows closing l head, apart⟩

private theorem isChain_inner {s : Symbol} {rest : List Lexeme} (apart : rest.IsChain Adjoins)
    (other : s ≠ .closing) : (Lexeme.symbol s :: rest).IsChain Adjoins :=
  isChain_symbol apart fun closing => absurd closing other

private theorem ofSign_ne (negative : Bool) :
    Symbol.ofSign negative ≠ .opening ∧ Symbol.ofSign negative ≠ .closing := by
  cases negative <;> decide

private theorem ofDivision_ne (division : Bool) :
    Symbol.ofDivision division ≠ .opening ∧ Symbol.ofDivision division ≠ .closing := by
  cases division <;> decide

private theorem noOperandStarts_terms (d : Derivation names .terms) {rest : List Lexeme}
    (follows : NoOperandStarts rest) : NoOperandStarts (d.word ++ rest) := by
  cases d with
  | noTerm => exact follows
  | term negative next others => exact noOperandStarts_cons (ofSign_ne negative).1 _

private theorem noOperandStarts_factors (d : Derivation names .factors) {rest : List Lexeme}
    (follows : NoOperandStarts rest) : NoOperandStarts (d.word ++ rest) := by
  cases d with
  | noFactor => exact follows
  | factor division next others => exact noOperandStarts_cons (ofDivision_ne division).1 _

private theorem isChain_factorialSigns (signs : Nat) {rest : List Lexeme}
    (follows : NoOperandStarts rest) (apart : rest.IsChain Adjoins) :
    NoOperandStarts (List.replicate signs (Lexeme.symbol .bang) ++ rest) ∧
      (List.replicate signs (Lexeme.symbol .bang) ++ rest).IsChain Adjoins := by
  induction signs with
  | zero => exact ⟨follows, apart⟩
  | succ signs ih =>
    rw [List.replicate_succ, List.cons_append]
    exact ⟨noOperandStarts_cons (by decide) _, isChain_inner ih.2 (by decide)⟩

/-- Between the lexemes of a derivation, and before what may follow it, operands stand apart. -/
theorem isChain_word {part : Part} (d : Derivation names part) {rest : List Lexeme}
    (follows : NoOperandStarts rest) (apart : rest.IsChain Adjoins) :
    (d.word ++ rest).IsChain Adjoins := by
  -- What follows varies along the induction, since inside a part the next part follows.
  induction d generalizing rest with
  | sum first others first_chain others_chain =>
    rw [word, List.append_assoc]
    exact first_chain (others.noOperandStarts_terms follows) (others_chain follows apart)
  | noTerm => exact apart
  | term negative next others next_chain others_chain =>
    rw [word, List.cons_append, List.append_assoc]
    exact isChain_inner (next_chain (others.noOperandStarts_terms follows)
      (others_chain follows apart)) (ofSign_ne negative).2
  | product first others first_chain others_chain =>
    rw [word, List.append_assoc]
    exact first_chain (others.noOperandStarts_factors follows) (others_chain follows apart)
  | noFactor => exact apart
  | factor division next others next_chain others_chain =>
    rw [word, List.cons_append, List.append_assoc]
    exact isChain_inner (next_chain (others.noOperandStarts_factors follows)
      (others_chain follows apart)) (ofDivision_ne division).2
  | signed negative operand operand_chain =>
    rw [word, List.cons_append]
    exact isChain_inner (operand_chain follows apart) (ofSign_ne negative).2
  | unsigned inner inner_chain => exact inner_chain follows apart
  | factorial power signs power_chain =>
    rw [word, List.append_assoc]
    obtain ⟨follows, apart⟩ := isChain_factorialSigns signs follows apart
    exact power_chain follows apart
  | bare operand operand_chain => exact operand_chain follows apart
  | raised base exponent base_chain exponent_chain =>
    rw [word, List.append_assoc, List.cons_append]
    exact base_chain (noOperandStarts_cons (by decide) _)
      (isChain_inner (exponent_chain follows apart) (by decide))
  | signedExponent negative exponent exponent_chain =>
    rw [word, List.cons_append]
    exact isChain_inner (exponent_chain follows apart) (ofSign_ne negative).2
  | unsignedExponent power power_chain => exact power_chain follows apart
  | number digits => exact List.isChain_cons.2 ⟨follows, apart⟩
  | «variable» name known noFunction =>
    -- only the name of a function may stand before a parenthesis
    refine List.isChain_cons.2 ⟨fun l head => ?_, apart⟩
    rw [Adjoins, noFunction]
    exact follows l head
  | constant c unhidden =>
    refine List.isChain_cons.2 ⟨fun l head => ?_, apart⟩
    rw [Adjoins, c.noFunction]
    exact follows l head
  | group inner inner_chain =>
    rw [word, List.cons_append, List.append_assoc]
    -- after the closing parenthesis comes what follows the group, so the parenthesis is no inner
    -- symbol
    exact isChain_inner (inner_chain (noOperandStarts_cons (by decide) _)
      (isChain_symbol apart fun _ => follows)) (by decide)
  | call f arguments accepted arguments_chain =>
    rw [word, List.cons_append, List.cons_append]
    refine List.isChain_cons.2 ⟨?_, isChain_inner (arguments_chain follows apart) (by decide)⟩
    rintro l ⟨⟩
    rw [Adjoins, f.ofLetters?_letters]
    rfl
  | lastArgument last last_chain =>
    rw [word, List.append_assoc]
    exact last_chain (noOperandStarts_cons (by decide) _) (isChain_symbol apart fun _ => follows)
  | argument first others first_chain others_chain =>
    rw [word, List.append_assoc, List.cons_append]
    exact first_chain (noOperandStarts_cons (by decide) _)
      (isChain_inner (others_chain follows apart) (by decide))

/-! ### What a text in full is made of -/

/-- Whether lexemes last and no power is written with a caret. -/
def AllPlain (word : List Lexeme) : Prop := ∀ l ∈ word, l.Lasting ∧ l ≠ .symbol .caret

private theorem allPlain_append {word word' : List Lexeme} (first : AllPlain word)
    (second : AllPlain word') :
    AllPlain (word ++ word') :=
  List.forall_mem_append.2 ⟨first, second⟩

private theorem allPlain_symbol {s : Symbol} {word : List Lexeme} (other : s ≠ .caret)
    (plain : AllPlain word) :
    AllPlain (.symbol s :: word) :=
  List.forall_mem_cons.2 ⟨⟨lasting_symbol s, by simpa using other⟩, plain⟩

private theorem allPlain_name {letters : List Char} {word : List Lexeme}
    (lasting : (Lexeme.name letters).Lasting) (plain : AllPlain word) :
    AllPlain (.name letters :: word) :=
  List.forall_mem_cons.2 ⟨⟨lasting, by simp⟩, plain⟩

private theorem allPlain_nil : AllPlain [] := by simp [AllPlain]

private theorem allPlain_inFull {part : Part} (d : Derivation names part)
    (lasting : ∀ l ∈ d.word, l.Lasting) :
    AllPlain d.inFull.word := by
  induction d with
  | sum first others first_plain others_plain =>
    rw [word, List.forall_mem_append] at lasting
    exact allPlain_append (first_plain lasting.1) (others_plain lasting.2)
  | noTerm => exact allPlain_nil
  | term negative next others next_plain others_plain =>
    rw [word, List.forall_mem_cons, List.forall_mem_append] at lasting
    exact allPlain_symbol (by cases negative <;> decide)
      (allPlain_append (next_plain lasting.2.1) (others_plain lasting.2.2))
  | product first others first_plain others_plain =>
    rw [word, List.forall_mem_append] at lasting
    exact allPlain_append (first_plain lasting.1) (others_plain lasting.2)
  | noFactor => exact allPlain_nil
  | factor division next others next_plain others_plain =>
    rw [word, List.forall_mem_cons, List.forall_mem_append] at lasting
    exact allPlain_symbol (by cases division <;> decide)
      (allPlain_append (next_plain lasting.2.1) (others_plain lasting.2.2))
  | signed negative operand operand_plain =>
    rw [word, List.forall_mem_cons] at lasting
    exact allPlain_symbol (by cases negative <;> decide) (operand_plain lasting.2)
  | unsigned inner inner_plain =>
    rw [inFull, word_ofOperand]
    exact inner_plain lasting
  | factorial power signs power_plain =>
    rw [word, List.forall_mem_append] at lasting
    rw [inFull]
    -- each sign wraps a call around what is plain already
    induction signs with
    | zero => exact power_plain lasting.1
    | succ signs ih =>
      rw [Function.iterate_succ_apply']
      simp only [word, word_ofSigned, word_ofOperand]
      refine allPlain_name (lasting_function (by decide)) (allPlain_symbol (by decide) ?_)
      exact allPlain_append (ih ⟨lasting.1, by simpa using fun _ => lasting_symbol .bang⟩)
        (allPlain_symbol (by decide) allPlain_nil)
  | bare operand operand_plain => exact operand_plain lasting
  | raised base exponent base_plain exponent_plain =>
    rw [word, List.forall_mem_append, List.forall_mem_cons] at lasting
    -- the caret is gone, and the name of the power function has come instead
    simp only [inFull, word, word_ofSigned, word_ofOperand]
    refine allPlain_name (lasting_function (by decide)) (allPlain_symbol (by decide) ?_)
    refine allPlain_append (base_plain lasting.1) (allPlain_symbol (by decide) ?_)
    exact allPlain_append (exponent_plain lasting.2.2) (allPlain_symbol (by decide) allPlain_nil)
  | signedExponent negative exponent exponent_plain =>
    rw [word, List.forall_mem_cons] at lasting
    exact allPlain_symbol (by cases negative <;> decide) (exponent_plain lasting.2)
  | unsignedExponent power power_plain =>
    rw [inFull, word_ofOperand]
    exact power_plain lasting
  | number digits =>
    rw [inFull, word]
    exact fun l member => ⟨lasting l member, by rintro rfl; cases member; contradiction⟩
  | «variable» name known noFunction =>
    exact allPlain_name (lasting _ List.mem_cons_self) allPlain_nil
  | constant c unhidden => exact allPlain_name (lasting _ List.mem_cons_self) allPlain_nil
  | group inner inner_plain =>
    rw [word, List.forall_mem_cons, List.forall_mem_append] at lasting
    exact allPlain_symbol (by decide) (allPlain_append (inner_plain lasting.2.1)
      (allPlain_symbol (by decide) allPlain_nil))
  | call f arguments accepted arguments_plain =>
    rw [word, List.forall_mem_cons, List.forall_mem_cons] at lasting
    exact allPlain_name lasting.1 (allPlain_symbol (by decide) (arguments_plain lasting.2.2))
  | lastArgument last last_plain =>
    rw [word, List.forall_mem_append] at lasting
    exact allPlain_append (last_plain lasting.1) (allPlain_symbol (by decide) allPlain_nil)
  | argument first others first_plain others_plain =>
    rw [word, List.forall_mem_append, List.forall_mem_cons] at lasting
    exact allPlain_append (first_plain lasting.1)
      (allPlain_symbol (by decide) (others_plain lasting.2.2))

end Derivation

/-- Whatever is found in a text lasts, unless it is the short name of the logarithm. -/
theorem scan_lasting {chars : List Char} {tokens : List Token} (scanned : scan chars = .ok tokens)
    (noLogarithm : ∀ t ∈ tokens, t.lexeme ≠ .name "log".toList) :
    ∀ t ∈ tokens, t.lexeme.Lasting := by
  intro t member
  obtain ⟨valid, whole⟩ := scanFrom_valid scanned
  refine ⟨valid _ (List.mem_map_of_mem member), List.any_eq_false.2 fun c inside =>
    ?_, noLogarithm t member⟩
  -- blanks are taken out before the text is scanned
  have kept : c ∈ withoutBlanks chars := by
    rw [← whole]
    exact List.mem_flatMap.2 ⟨t.lexeme, List.mem_map_of_mem member, inside⟩
  simpa using (List.mem_filter.1 kept).2

/-- The text of a derivation is scanned as the word of its text in full, which no pass changes. -/
theorem scan_text {names : List (List Char)} (d : Derivation names .sum)
    (lasting : ∀ l ∈ d.word, l.Lasting) :
    withoutBlanks d.text = d.text ∧
      ∃ tokens, scan d.text = .ok tokens ∧ spelledOut tokens = tokens ∧
        lexemes tokens = d.inFull.word := by
  have plain := d.allPlain_inFull lasting
  have apart : d.inFull.word.IsChain Adjoins := by
    have nothing : Derivation.NoOperandStarts [] := by simp [Derivation.NoOperandStarts]
    simpa using d.inFull.isChain_word nothing .nil
  have unblank : withoutBlanks d.text = d.text := by
    refine List.filter_eq_self.2 fun c member => ?_
    rw [← d.word_inFull] at member
    obtain ⟨l, found, inside⟩ := List.mem_flatMap.1 member
    simpa using List.any_eq_false.1 (plain l found).1.unblank c inside
  obtain ⟨tokens, scanned, same⟩ :=
    scanFrom_texts (fun l member => (plain l member).1.valid) apart 0
  refine ⟨unblank, tokens, by rw [scan, unblank, ← d.word_inFull, scanned], ?_, same⟩
  have plain_tokens : ∀ t ∈ tokens, t.lexeme.Lasting ∧ t.lexeme ≠ .symbol .caret :=
    fun t member => plain _ (same ▸ List.mem_map_of_mem member)
  exact spelledOut_eq_self (fun t member => (plain_tokens t member).2) (same ▸ apart)
    fun t member => (plain_tokens t member).1

namespace Formula

/-- Without a short logarithm, all lexemes of the derivation last. -/
theorem parse_derivation {names : List String} {source : String} {formula : Formula}
    (parsed : parse names source = .ok formula)
    (noLogarithm : ∀ tokens, scan source.toList = .ok tokens →
      ∀ t ∈ tokens, t.lexeme ≠ .name "log".toList) :
    ∃ d : Derivation (names.map String.toList) .sum, (∀ l ∈ d.word, l.Lasting) ∧
      d.tree = formula.tree ∧ String.ofList d.text = formula.rewritten := by
  obtain ⟨tokens, scanned, d, same, tree_eq, text_eq⟩ := parse_sound parsed
  have lasting := spelledOut_lasting (scan_lasting scanned (noLogarithm tokens scanned))
  refine ⟨d, fun l member => ?_, tree_eq, text_eq⟩
  rw [same] at member
  obtain ⟨t, found, rfl⟩ := List.mem_map.1 member
  exact lasting t found

/-- The text in full is read as the same formula with calls for powers, is its own text in full, and
compiles to the same function. -/
theorem parse_rewritten {names : List String} {source : String} {formula : Formula}
    (parsed : parse names source = .ok formula)
    (noLogarithm : ∀ tokens, scan source.toList = .ok tokens →
      ∀ t ∈ tokens, t.lexeme ≠ .name "log".toList) :
    ∃ again, parse names formula.rewritten = .ok again ∧ again.rewritten = formula.rewritten ∧
      again.tree = formula.tree.powersAsCalls ∧
      (∀ dice input, again.tree.evaluate? dice input = formula.tree.evaluate? dice input) ∧
      ∀ c c' : CompiledFormula, c.formula = formula → c'.formula = again →
        ∀ dice input, c'.onArray? dice input = c.onArray? dice input := by
  -- the text in full is that of another derivation, whose word is found again
  obtain ⟨d, lasting, tree_eq, text_eq⟩ := parse_derivation parsed noLogarithm
  obtain ⟨unblank, tokens, scanned, spelled, same⟩ := scan_text d lasting
  have tree_full : d.inFull.tree = formula.tree.powersAsCalls := by
    rw [← tree_eq]
    exact d.tree_inFull
  refine ⟨⟨formula.tree.powersAsCalls, formula.rewritten, formula.rewritten⟩, ?_,
    rfl, rfl, ?_, ?_⟩
  · rw [← text_eq, parse_of_derivation d.inFull (by rw [String.toList_ofList, scanned])
      (by rw [spelled, same]), String.toList_ofList, unblank, d.text_inFull, tree_full]
  · exact fun dice input => Tree.evaluate?_powersAsCalls dice input formula.tree
  · intro c c' formula_eq again_eq dice input
    simp only [CompiledFormula.onArray?, CompiledFormula.tree, formula_eq, again_eq,
      Tree.evaluate?_powersAsCalls]

/-- A power with a sign in its exponent, under a factorial. -/
theorem parse_rewritten_signedPower :
    ∃ formula again, parse ["x"] "x^-2!" = .ok formula ∧
      parse ["x"] "factorial(pow(x,-2))" = .ok again ∧
      again.rewritten = "factorial(pow(x,-2))" ∧
      again.tree =
        .call .factorial [.call .power [.free ['x'],
        .signed true (.number (numeralValue ['2']))]] := by
  have scanned : scan "x^-2!".toList =
      .ok [⟨.name ['x'], 0⟩, ⟨.symbol .caret, 1⟩, ⟨.symbol .minus, 2⟩,
        ⟨.number ['2'], 3⟩, ⟨.symbol .bang, 4⟩] := by decide +kernel
  have parsed : parse ["x"] "x^-2!" = .ok _ :=
    parse_of_derivation (.ofSigned (.unsigned (.factorial
      (.raised (.variable ['x'] (by decide) (by decide))
        (.signedExponent true (.unsignedExponent (.bare (.number ['2']))))) 1))) scanned
      (by simp [spelledOut, spellInverses, spellProducts, spellLogarithm, Token.inverse?,
        inverseSuffixLength, productDue, Derivation.ofSigned, Derivation.word, Symbol.ofSign])
  obtain ⟨again, parsed', rewritten, tree, -⟩ := parse_rewritten parsed (by
    intro tokens scanned'
    cases scanned.symm.trans scanned'
    decide)
  refine ⟨_, again, parsed, parsed', rewritten, ?_⟩
  simp [tree, Derivation.tree, Tree.powersAsCalls, Tree.powersAsCallsInAll]

end Formula

end CurveBoard
