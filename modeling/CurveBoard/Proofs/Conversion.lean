import CurveBoard.Board.Fault
import CurveBoard.Proofs.Board.Inputs
import CurveBoard.Proofs.Formula.Numerals

/-!
# Typed-in numbers

A text that spells a number is converted like the number wherever the number is of the wanted kind,
and the compiler is not asked. A number that is refused is tried again as a formula, which in
general is the same number and refused again. Only a small mark before an exponent is something else
in a formula, namely the constant, so a text with one may be taken for an integer that it does not
spell.
-/
namespace CurveBoard

/-- What callers can tell apart: the number that is made, or the kind of the fault. -/
def conversionOutcome (result : Except ConversionFault Number) : Except FaultKind Number :=
  result.mapError ConversionFault.kind

section Settling

variable {kind : NumberKind} {lossy : Bool} {re im : Float} {fault : ConversionFault}

private theorem settle_kind (refused : settle kind lossy re im = .error fault) :
    fault.kind = .unsuitableValue := by
  unfold settle at refused
  split at refused
  · cases refused
    rfl
  · split at refused
    · cases refused
    · split at refused
      · cases refused
        rfl
      · split at refused <;> cases refused
        rfl

private theorem settle_whole_infinite (infinite : Binary.ofFloat? re = none) :
    settle .whole lossy re 0.0 = .error (.notFinite (complexText re 0.0)) := by
  simp [settle, zero_beq_zero, infinite]

/-- If it may lose something, an integer is the integer part. -/
theorem settle_whole_lossy {n : Int} (integer : (Binary.ofFloat? re).map Binary.truncate = some n) :
    settle .whole true re 0.0 = .ok (.whole n) := by
  obtain ⟨b, finite, rfl⟩ := Option.map_eq_some_iff.1 integer
  simp [settle, finite]

private theorem settleFormula_kind {shown source : String} {w : Workspace}
    (refused : (settleFormula kind lossy shown source w).1 = .error fault) :
    fault.kind = .unsuitableValue := by
  cases compiled : compileAnew source "x" with
  | error e =>
    rw [settleFormula_of_error compiled] at refused
    cases refused
    rfl
  | ok c =>
    obtain ⟨dice, same⟩ := settleFormula_of_ok kind lossy compiled shown w
    rw [same] at refused
    split at refused
    · cases refused
      rfl
    · split at refused
      · cases refused
        rfl
      · exact settle_kind refused

end Settling

/-! ### Texts as numbers -/

private theorem CompiledFormula.onNumber_of_single {c : CompiledFormula} {dice : Dice}
    {x value : Float} (single : c.tree.evaluate? dice (.single x) = some (.single value)) :
    c.onNumber dice x = value := by
  rw [onNumber, onNumber?, onArray?, single]
  simp [Nested.filledLike, Nested.map, Nested.entries]

section Texts

variable {kind : NumberKind} {lossy : Bool} {s : String} {x : Float} {w : Workspace}

private theorem convert_text (accepted : readFloat? s.toList = some x) :
    convert kind lossy (.text s) w = (settle kind lossy x 0.0).toOption.elim
      (settleFormula kind lossy s (String.ofList (trimBlanks s.toList)) w) fun number =>
        (.ok number, w) := by
  have bare := readFloat?_trimBlanks accepted
  have some : (trimBlanks s.toList).isEmpty = false := by
    cases same : trimBlanks s.toList with
    | nil =>
      rw [same] at bare
      cases bare
    | cons c rest => rfl
  unfold convert
  simp only [some, bare, Option.bind_some]
  cases settle kind lossy x 0.0 <;> rfl

private theorem convert_text_of_ok {n : Number} (accepted : readFloat? s.toList = some x)
    (settled : settle kind lossy x 0.0 = .ok n) : convert kind lossy (.text s) w = (.ok n, w) := by
  rw [convert_text accepted, settled]
  rfl

private theorem convert_text_of_error {fault : ConversionFault}
    (accepted : readFloat? s.toList = some x) (refused : settle kind lossy x 0.0 = .error fault) :
    convert kind lossy (.text s) w =
      settleFormula kind lossy s (String.ofList (trimBlanks s.toList)) w := by
  rw [convert_text accepted, refused]
  rfl

/-- As a formula, a number without an exponent is the same number. -/
theorem onNumber_of_readFloat? {c : CompiledFormula} (accepted : readFloat? s.toList = some x)
    (unmarked : 'e' ∉ s.toList) (compiled : compileAnew s "x" = .ok c) (dice : Dice) :
    c.onNumber dice 0.0 = x := by
  obtain ⟨rfl, named⟩ := compileAnew_eq_ok compiled
  have read := c.read
  rw [named] at read
  exact CompiledFormula.onNumber_of_single
    ((Formula.value_of_readFloat? accepted unmarked read).2 dice _)

/-- A text that spells a number is converted like the number, and the compiler is not asked if the
number is of the wanted kind. Only where it is not, and the text has a small mark before an
exponent, the text may be an integer as a formula without variables. -/
theorem convert_text_as_number (accepted : readFloat? s.toList = some x) (kind : NumberKind)
    (lossy : Bool) (w : Workspace) :
    (∀ n, (convert kind lossy (.real x) w).1 = .ok n →
      convert kind lossy (.text s) w = (.ok n, w)) ∧
        (conversionOutcome (convert kind lossy (.text s) w).1 =
        conversionOutcome (convert kind lossy (.real x) w).1 ∨
          'e' ∈ s.toList ∧ kind = .whole ∧
            conversionOutcome (convert kind lossy (.real x) w).1 = .error .unsuitableValue ∧
          ∃ c n, compileAnew (String.ofList (trimBlanks s.toList)) "x" = .ok c ∧
            c.isConstant = true ∧
              (∀ dice, settle kind lossy (c.onNumber dice 0.0) 0.0 = .ok n) ∧
            (convert kind lossy (.text s) w).1 = .ok n) := by
  rw [convert_real]
  refine ⟨fun n settled => convert_text_of_ok accepted settled, ?_⟩
  cases settled : settle kind lossy x 0.0 with
  | ok n =>
    rw [convert_text_of_ok accepted settled]
    exact .inl rfl
  | error fault =>
    have refused : conversionOutcome (.error fault) = .error .unsuitableValue :=
      mapError_eq_error.2 ⟨fault, rfl, settle_kind settled⟩
    rw [convert_text_of_error accepted settled, refused]
    cases made : (settleFormula kind lossy s (String.ofList (trimBlanks s.toList)) w).1 with
    | error fault => exact .inl (mapError_eq_error.2 ⟨fault, rfl, settleFormula_kind made⟩)
    | ok n =>
      -- it is another number that is made, so the text is another number as a formula
      obtain ⟨c, dice, compiled, constant, value⟩ := settleFormula_eq_ok made
      refine .inr ⟨?marked, ?whole, rfl, c, n, compiled, constant, ?value, rfl⟩
      case marked =>
        by_contra unmarked
        have bare : readFloat? (String.ofList (trimBlanks s.toList)).toList = some x := by
          rw [String.toList_ofList, readFloat?_trimBlanks accepted]
        have still : 'e' ∉ (String.ofList (trimBlanks s.toList)).toList := by
          rw [String.toList_ofList]
          exact fun found => unmarked (mem_of_mem_trimBlanks found)
        cases settled.symm.trans (onNumber_of_readFloat? bare still compiled dice ▸ value)
      case whole =>
        cases kind with
        | real => cases settled.symm.trans (settle_real lossy x)
        | whole => rfl
      case value =>
        intro dice'
        have steady :=
          compileAnew_steady (steadyText_trimBlanks (steadyText_of_readFloat? accepted)) compiled
        rw [← value, CompiledFormula.onNumber_dice steady dice' dice]

end Texts

/-- With a capital mark, a number that is too great is refused as such. -/
theorem convert_text_as_number_capitalMark :
    readFloat? "1E400".toList = some (1.0 / 0.0) ∧
      ∀ lossy w, conversionOutcome (convert .whole lossy (.text "1E400") w).1 =
        .error .unsuitableValue := by
  have accepted : readFloat? "1E400".toList = some (1.0 / 0.0) := by decide +kernel
  refine ⟨accepted, fun lossy w => ?_⟩
  rcases (convert_text_as_number accepted .whole lossy w).2 with same | ⟨marked, -⟩
  · have infinite : Binary.ofFloat? (1.0 / 0.0) = none := by decide +kernel
    rw [same, convert_real, settle_whole_infinite infinite]
    rfl
  · exact absurd marked (by decide)

/-- What a formula takes a number with a small mark for: a product with the constant in the
middle. -/
def Derivation.markedProduct (before after : List Char) :
    Derivation (["x"].map String.toList) .sum :=
  .sum (.product (.ofOperand (.number before))
    (.factor false (.ofOperand (.constant .e (unhidden_x .e)))
    (.factor false (.ofOperand (.number after)) .noFactor))) .noTerm

/-- A number that is too great, with a small mark, is a formula without variables. -/
theorem exists_markedProduct : ∃ c, compileAnew "1e400" "x" = .ok c ∧ c.isConstant = true ∧
    ∀ dice, c.onNumber dice 0.0 =
      numeralValue ['1'] * Constant.e.value * numeralValue ['4', '0', '0'] := by
  have parsed : Formula.parse ["x"] "1e400" = .ok _ :=
    Formula.parse_of_word (Derivation.markedProduct ['1'] ['4', '0', '0']) (by decide +kernel)
  refine ⟨_, compileAnew_of_parse parsed, ?_, fun dice => CompiledFormula.onNumber_of_single ?_⟩
  all_goals simp only [CompiledFormula.isConstant, CompiledFormula.tree]
  · simp [Derivation.markedProduct, Derivation.ofOperand, Derivation.tree,
      Tree.isConstant, Tree.names]
  · simp [Derivation.markedProduct, Derivation.ofOperand, Derivation.tree, Tree.evaluate?,
      Operation.apply, Operation.ofDivision, Nested.zip, Nested.map]

/-- With a small mark, the same number is taken for an integer. -/
theorem not_convert_text_as_number :
    ¬ ∀ (s : String) (x : Float) (kind : NumberKind) (lossy : Bool) (w : Workspace),
      readFloat? s.toList = some x →
        conversionOutcome (convert kind lossy (.text s) w).1 =
          conversionOutcome (convert kind lossy (.real x) w).1 := by
  intro alike
  have accepted : readFloat? "1e400".toList = some (1.0 / 0.0) := by decide +kernel
  have infinite : Binary.ofFloat? (1.0 / 0.0) = none := by decide +kernel
  have same := alike "1e400" (1.0 / 0.0) .whole true Workspace.initial accepted
  -- the compiler has another number for the text
  obtain ⟨c, compiled, constant, value⟩ := exists_markedProduct
  have bare : String.ofList (trimBlanks "1e400".toList) = "1e400" := by decide
  have number :
      (numeralValue ['1'] * Constant.e.value * numeralValue ['4', '0', '0']).isNaN = false := by
    decide +kernel
  have integer :
      (Binary.ofFloat? (numeralValue ['1'] * Constant.e.value * numeralValue ['4', '0', '0'])).map
        Binary.truncate = some 1087 := by decide +kernel
  obtain ⟨dice, made⟩ := settleFormula_of_ok .whole true compiled "1e400" Workspace.initial
  rw [convert_text_of_error accepted (settle_whole_infinite infinite), bare, made, constant,
    value, number, settle_whole_lossy integer, convert_real, settle_whole_infinite infinite] at same
  cases same

end CurveBoard
