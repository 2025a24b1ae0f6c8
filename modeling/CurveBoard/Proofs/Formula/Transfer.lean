import CurveBoard.Proofs.Formula.Completeness

/-!
# Formulas in other variables

A formula may be read in other variables than those it was written for, as long as the ones it names
are among them and none of them hides a constant: its derivation is one in these variables too. So
the variables that a formula does not name make no difference to what it is read as.
-/
namespace CurveBoard

namespace Derivation

variable {names names' : List (List Char)}

/-- The variables in the order in which they stand in the text. -/
def freeNames : {part : Part} → Derivation names part → List (List Char)
  | _, sum first others => first.freeNames ++ others.freeNames
  | _, noTerm => []
  | _, term _ next others => next.freeNames ++ others.freeNames
  | _, product first others => first.freeNames ++ others.freeNames
  | _, noFactor => []
  | _, factor _ next others => next.freeNames ++ others.freeNames
  | _, signed _ operand => operand.freeNames
  | _, unsigned inner => inner.freeNames
  | _, factorial power _ => power.freeNames
  | _, bare operand => operand.freeNames
  | _, raised base exponent => base.freeNames ++ exponent.freeNames
  | _, signedExponent _ exponent => exponent.freeNames
  | _, unsignedExponent power => power.freeNames
  | _, number _ => []
  | _, «variable» name _ _ => [name]
  | _, constant _ _ => []
  | _, group inner => inner.freeNames
  | _, call _ arguments _ => arguments.freeNames
  | _, lastArgument last => last.freeNames
  | _, argument first others => first.freeNames ++ others.freeNames

end Derivation

/-- Factorials name no variables. -/
theorem Tree.names_factorials (t : Tree) (signs : Nat) :
    ((fun t => Tree.call .factorial [t])^[signs] t).names = t.names := by
  induction signs with
  | zero => rfl
  | succ signs ih =>
    rw [Function.iterate_succ_apply', names, namesOfAll, namesOfAll, List.append_nil, ih]

namespace Derivation

variable {names names' : List (List Char)}

/-- What a part names, after what stands before it. -/
def Names : {part : Part} → Derivation names part → Prop
  | .terms, d => ∀ left : Tree, (d.tree left).names = left.names ++ d.freeNames
  | .factors, d => ∀ left : Tree, (d.tree left).names = left.names ++ d.freeNames
  | .arguments _, d => Tree.namesOfAll d.tree = d.freeNames
  | .sum, d => d.tree.names = d.freeNames
  | .product, d => d.tree.names = d.freeNames
  | .signed, d => d.tree.names = d.freeNames
  | .factorial, d => d.tree.names = d.freeNames
  | .power, d => d.tree.names = d.freeNames
  | .exponent, d => d.tree.names = d.freeNames
  | .operand, d => d.tree.names = d.freeNames

/-- The tree of a derivation names its variables. -/
theorem names_tree {part : Part} (d : Derivation names part) : d.Names := by
  -- the further terms and factors put what is named before them first
  induction d with
  | sum first others first_names others_names =>
    exact (others_names _).trans (congrArg (· ++ _) first_names)
  | noTerm => exact fun left => (List.append_nil _).symm
  | term negative next others next_names others_names =>
    intro left
    rw [tree, others_names, Tree.names, next_names, List.append_assoc, freeNames]
  | product first others first_names others_names =>
    exact (others_names _).trans (congrArg (· ++ _) first_names)
  | noFactor => exact fun left => (List.append_nil _).symm
  | factor division next others next_names others_names =>
    intro left
    rw [tree, others_names, Tree.names, next_names, List.append_assoc, freeNames]
  | signed negative operand operand_names => exact operand_names
  | unsigned inner inner_names => exact inner_names
  | factorial power signs power_names => exact (Tree.names_factorials _ signs).trans power_names
  | bare operand operand_names => exact operand_names
  | raised base exponent base_names exponent_names =>
    exact congrArg₂ (· ++ ·) base_names exponent_names
  | signedExponent negative exponent exponent_names => exact exponent_names
  | unsignedExponent power power_names => exact power_names
  | number digits => rfl
  | «variable» name known noFunction => rfl
  | constant c unhidden => rfl
  | group inner inner_names => exact inner_names
  | call f arguments accepted arguments_names => exact arguments_names
  | lastArgument last last_names => exact (List.append_nil _).trans last_names
  | argument first others first_names others_names =>
    exact congrArg₂ (· ++ ·) first_names others_names

section Transfer

variable (unhidden : ∀ c : Constant, c.letters ∉ names')

/-- The same derivation in other variables, if all that it names are among them. -/
def transfer :
    {part : Part} → (d : Derivation names part) →
    (∀ name ∈ d.freeNames, name ∈ names') →
    Derivation names' part
  | _, sum first others, known =>
    .sum (first.transfer fun name member => known name (List.mem_append_left _ member))
      (others.transfer fun name member => known name (List.mem_append_right _ member))
  | _, noTerm, _ => .noTerm
  | _, term negative next others, known =>
    .term negative (next.transfer fun name member => known name (List.mem_append_left _ member))
      (others.transfer fun name member => known name (List.mem_append_right _ member))
  | _, product first others, known =>
    .product (first.transfer fun name member => known name (List.mem_append_left _ member))
      (others.transfer fun name member => known name (List.mem_append_right _ member))
  | _, noFactor, _ => .noFactor
  | _, factor division next others, known =>
    .factor division (next.transfer fun name member => known name (List.mem_append_left _ member))
      (others.transfer fun name member => known name (List.mem_append_right _ member))
  | _, signed negative operand, known => .signed negative (operand.transfer known)
  | _, unsigned inner, known => .unsigned (inner.transfer known)
  | _, factorial power signs, known => .factorial (power.transfer known) signs
  | _, bare operand, known => .bare (operand.transfer known)
  | _, raised base exponent, known =>
    .raised (base.transfer fun name member => known name (List.mem_append_left _ member))
      (exponent.transfer fun name member => known name (List.mem_append_right _ member))
  | _, signedExponent negative exponent, known => .signedExponent negative (exponent.transfer known)
  | _, unsignedExponent power, known => .unsignedExponent (power.transfer known)
  | _, number digits, _ => .number digits
  | _, «variable» name _ noFunction, known =>
    .variable name (known name (List.mem_singleton_self name)) noFunction
  | _, constant c _, _ => .constant c (unhidden c)
  | _, group inner, known => .group (inner.transfer known)
  | _, call f arguments accepted, known => .call f (arguments.transfer known) accepted
  | _, lastArgument last, known => .lastArgument (last.transfer known)
  | _, argument first others, known =>
    .argument (first.transfer fun name member => known name (List.mem_append_left _ member))
      (others.transfer fun name member => known name (List.mem_append_right _ member))

variable {part : Part} (d : Derivation names part)
  (known : ∀ name ∈ d.freeNames, name ∈ names')

private theorem word_transfer : (d.transfer unhidden known).word = d.word := by
  induction d with
  | signed _ _ ih | unsigned _ ih | factorial _ _ ih | bare _ ih | signedExponent _ _ ih
  | unsignedExponent _ ih
  | group _ ih | call _ _ _ ih | lastArgument _ ih =>
    -- the part names what its only part names
    simp only [transfer, word, ih known]
  | _ => simp only [transfer, word, *]

private theorem tree_transfer : (d.transfer unhidden known).tree = d.tree := by
  induction d with
  | signed _ _ ih | unsigned _ ih | factorial _ _ ih | bare _ ih | signedExponent _ _ ih
  | unsignedExponent _ ih
  | group _ ih | call _ _ _ ih | lastArgument _ ih =>
    -- the part names what its only part names
    simp only [transfer, tree, ih known]
  | _ => simp only [transfer, tree, *]

private theorem text_transfer : (d.transfer unhidden known).text = d.text := by
  induction d with
  | signed _ _ ih | unsigned _ ih | factorial _ _ ih | bare _ ih | signedExponent _ _ ih
  | unsignedExponent _ ih
  | group _ ih | call _ _ _ ih | lastArgument _ ih =>
    -- the part names what its only part names
    simp only [transfer, text, ih known]
  | _ => simp only [transfer, text, *]

end Transfer

end Derivation

namespace Formula

variable {names names' : List String} {source : String} {formula : Formula}

/-- A formula is read the same in all variables that it can be read in, and in any that it does not
name. -/
theorem parse_transfer (parsed : parse names source = .ok formula)
    (unhidden : ∀ c : Constant, c.letters ∉ names'.map String.toList)
    (known : ∀ name ∈ formula.tree.names, name ∈ names'.map String.toList) :
    parse names' source = .ok formula := by
  obtain ⟨tokens, scanned, d, same, tree_eq, text_eq⟩ := parse_sound parsed
  have names_eq : formula.tree.names = d.freeNames := tree_eq ▸ d.names_tree
  rw [names_eq] at known
  have read := parse_of_derivation d scanned same
  have read' :=
    parse_of_derivation (d.transfer unhidden known) scanned
    ((d.word_transfer unhidden known).trans same)
  rw [d.tree_transfer, d.text_transfer] at read'
  exact read'.trans (read.symm.trans parsed)

/-- A formula without variables is read the same in every variable that is not the name of a
constant. -/
theorem parse_of_isConstant {name : String} (parsed : parse names source = .ok formula)
    (isConstant : formula.tree.isConstant = true)
    (unhidden : ∀ c : Constant, c.letters ≠ name.toList) :
    parse [name] source = .ok formula := by
  refine parse_transfer parsed (fun c member =>
    unhidden c (List.mem_singleton.1 member)) fun free member => ?_
  rw [List.isEmpty_iff.1 isConstant] at member
  cases member

end Formula

end CurveBoard
