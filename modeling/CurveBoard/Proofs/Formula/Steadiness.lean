import CurveBoard.Decimal.Numeral
import CurveBoard.Formula.Compiled
import CurveBoard.Proofs.Formula.Rescanning

/-!
# Formulas without random functions

A formula that calls no random function has the same values with any dice. Whether it calls one can
be told from its text: no reading of a text finds a random function unless its name is written
there.
-/
namespace CurveBoard

namespace Tree

/-- Whether a tree calls no random function. -/
def Steady (t : Tree) : Prop :=
  ∀ node ∈ t.nodes, ∀ arguments, node ≠ .call .random arguments

section Steady

-- the equations of the nodes are made here once, and not by all the proofs at the same time
attribute [local simp] nodes

@[simp] theorem steady_number (value : Float) : (number value).Steady := by simp [Steady]

@[simp] theorem steady_constant (c : Constant) : (constant c).Steady := by simp [Steady]

@[simp] theorem steady_free (name : List Char) : (free name).Steady := by simp [Steady]

@[simp] theorem steady_signed (negative : Bool) (operand : Tree) :
    (signed negative operand).Steady ↔ operand.Steady := by
  simp [Steady]

@[simp] theorem steady_binary (operation : Operation) (left right : Tree) :
    (binary operation left right).Steady ↔ left.Steady ∧ right.Steady := by
  simp [Steady, or_imp, forall_and]

theorem mem_nodesOfAll {node : Tree} {arguments : List Tree} :
    node ∈ nodesOfAll arguments ↔ ∃ t ∈ arguments, node ∈ t.nodes := by
  induction arguments with
  | nil => simp [nodesOfAll]
  | cons t rest ih => simp [nodesOfAll, ih]

@[simp] theorem steady_call (f : NamedFunction) (arguments : List Tree) :
    (call f arguments).Steady ↔ f ≠ .random ∧ ∀ t ∈ arguments, t.Steady := by
  simp only [Steady, nodes, List.forall_mem_cons, mem_nodesOfAll]
  constructor
  · rintro ⟨head, inside⟩
    exact ⟨fun same => head arguments (by rw [same]), fun t member node found =>
      inside node ⟨t, member, found⟩⟩
  · rintro ⟨other, all⟩
    refine ⟨fun arguments' same => other (Tree.call.inj same).1, ?_⟩
    rintro node ⟨t, member, found⟩
    exact all t member node found

private theorem steady_factorials {t : Tree} (steady : t.Steady) (signs : Nat) :
    ((fun t => call .factorial [t])^[signs] t).Steady := by
  induction signs with
  | zero => exact steady
  | succ signs ih =>
    rw [Function.iterate_succ_apply', steady_call]
    exact ⟨by decide, List.forall_mem_singleton.2 ih⟩

end Steady

end Tree

private theorem NamedFunction.result?_dice {f : NamedFunction} (other : f ≠ .random)
    (dice dice' : Dice) :
    f.result? dice = f.result? dice' := by
  funext arguments
  cases f with
  | random => exact absurd rfl other
  | _ => rcases arguments with _ | ⟨_, _ | ⟨_, _ | _⟩⟩ <;> rfl

namespace Tree

mutual

/-- Without a random function the dice do not matter. -/
theorem Steady.evaluate?_dice (input : Nested Float) :
    (t : Tree) → t.Steady → ∀ dice dice', t.evaluate? dice input = t.evaluate? dice' input
  | number value, _, _, _ => by rw [evaluate?, evaluate?]
  | constant c, _, _, _ => by rw [evaluate?, evaluate?]
  | free name, _, _, _ => by rw [evaluate?, evaluate?]
  | signed negative operand, steady, dice, dice' => by
    rw [evaluate?, evaluate?,
      Steady.evaluate?_dice input operand ((steady_signed _ _).1 steady) dice dice']
  | binary operation left right, steady, dice, dice' => by
    -- each operand has dice of its own, so both are changed
    obtain ⟨left_steady, right_steady⟩ := (steady_binary _ _ _).1 steady
    rw [evaluate?, evaluate?,
      Steady.evaluate?_dice input left left_steady _ ((dice'.part 1).part 0),
      Steady.evaluate?_dice input right right_steady _ (((dice'.part 1).part 1).part 0)]
  | call f arguments, steady, dice, dice' => by
    obtain ⟨other, all⟩ := (steady_call _ _).1 steady
    rw [evaluate?, evaluate?, Steady.evaluateAll?_dice input arguments all _ (dice'.part 1),
      NamedFunction.result?_dice other _ (dice'.part 0)]

theorem Steady.evaluateAll?_dice (input : Nested Float) :
    (arguments : List Tree) → (∀ t ∈ arguments, t.Steady) → ∀ dice dice',
      evaluateAll? dice input arguments = evaluateAll? dice' input arguments
  | [], _, _, _ => by rw [evaluateAll?, evaluateAll?]
  | t :: rest, steady, dice, dice' => by
    obtain ⟨first, others⟩ := List.forall_mem_cons.1 steady
    rw [evaluateAll?, evaluateAll?, Steady.evaluate?_dice input t first _ (dice'.part 0),
      Steady.evaluateAll?_dice input rest others _ (dice'.part 1)]

end

end Tree

namespace CompiledFormula

variable {c : CompiledFormula} (steady : c.tree.Steady) (dice dice' : Dice)

include steady

theorem onArray?_dice (input : Nested Float) : c.onArray? dice input = c.onArray? dice' input := by
  rw [onArray?, onArray?, Tree.Steady.evaluate?_dice input c.tree steady dice dice']

private theorem onNumber?_dice (x : Float) : c.onNumber? dice x = c.onNumber? dice' x := by
  rw [onNumber?, onNumber?, onArray?_dice steady dice dice']

theorem onNumber_dice (x : Float) : c.onNumber dice x = c.onNumber dice' x := by
  rw [onNumber, onNumber, onNumber?_dice steady dice dice']

theorem onList_dice : c.onList dice = c.onList dice' := by
  funext xs
  rw [onList, onList, onArray?_dice steady dice dice']

end CompiledFormula

/-! ### Steadiness of texts -/

/-- The name of the random function, as it stands in a text. -/
def Lexeme.random : Lexeme := .name NamedFunction.random.letters

namespace Derivation

variable {names : List (List Char)}

/-- What a part without random functions means. -/
def MeansSteady : {part : Part} → Derivation names part → Prop
  | .terms, d => ∀ left : Tree, left.Steady → (d.tree left).Steady
  | .factors, d => ∀ left : Tree, left.Steady → (d.tree left).Steady
  | .arguments _, d => ∀ t ∈ d.tree, t.Steady
  | .sum, d => d.tree.Steady
  | .product, d => d.tree.Steady
  | .signed, d => d.tree.Steady
  | .factorial, d => d.tree.Steady
  | .power, d => d.tree.Steady
  | .exponent, d => d.tree.Steady
  | .operand, d => d.tree.Steady

/-- A derivation without the name of the random function has no call of it. -/
theorem steady_tree {part : Part} (d : Derivation names part) (unnamed : Lexeme.random ∉ d.word) :
    d.MeansSteady := by
  -- Only a call can add a random function, and its name is in the word.
  induction d with
  | sum first others first_steady others_steady =>
    rw [word, List.mem_append, not_or] at unnamed
    exact others_steady unnamed.2 first.tree (first_steady unnamed.1)
  | noTerm => exact fun left steady => steady
  | term negative next others next_steady others_steady =>
    rw [word, List.mem_cons, List.mem_append, not_or, not_or] at unnamed
    intro left steady
    refine others_steady unnamed.2.2 _ ?_
    exact (Tree.steady_binary _ _ _).2 ⟨steady, next_steady unnamed.2.1⟩
  | product first others first_steady others_steady =>
    rw [word, List.mem_append, not_or] at unnamed
    exact others_steady unnamed.2 first.tree (first_steady unnamed.1)
  | noFactor => exact fun left steady => steady
  | factor division next others next_steady others_steady =>
    rw [word, List.mem_cons, List.mem_append, not_or, not_or] at unnamed
    intro left steady
    refine others_steady unnamed.2.2 _ ?_
    exact (Tree.steady_binary _ _ _).2 ⟨steady, next_steady unnamed.2.1⟩
  | signed negative operand operand_steady =>
    rw [word, List.mem_cons, not_or] at unnamed
    exact (Tree.steady_signed _ _).2 (operand_steady unnamed.2)
  | unsigned inner inner_steady => exact inner_steady unnamed
  | factorial power signs power_steady =>
    rw [word, List.mem_append, not_or] at unnamed
    exact Tree.steady_factorials (power_steady unnamed.1) signs
  | bare operand operand_steady => exact operand_steady unnamed
  | raised base exponent base_steady exponent_steady =>
    rw [word, List.mem_append, List.mem_cons, not_or, not_or] at unnamed
    exact (Tree.steady_binary _ _ _).2 ⟨base_steady unnamed.1, exponent_steady unnamed.2.2⟩
  | signedExponent negative exponent exponent_steady =>
    rw [word, List.mem_cons, not_or] at unnamed
    exact (Tree.steady_signed _ _).2 (exponent_steady unnamed.2)
  | unsignedExponent power power_steady => exact power_steady unnamed
  | number digits => exact Tree.steady_number _
  | «variable» name known noFunction => exact Tree.steady_free name
  | constant c unhidden => exact Tree.steady_constant c
  | group inner inner_steady =>
    rw [word, List.mem_cons, List.mem_append, not_or, not_or] at unnamed
    exact inner_steady unnamed.2.1
  | call f arguments accepted arguments_steady =>
    rw [word, List.mem_cons, List.mem_cons, not_or, not_or] at unnamed
    refine (Tree.steady_call _ _).2 ⟨fun same =>
      unnamed.1 (by rw [same]; rfl), arguments_steady unnamed.2.2⟩
  | lastArgument last last_steady =>
    rw [word, List.mem_append, not_or] at unnamed
    exact List.forall_mem_singleton.2 (last_steady unnamed.1)
  | argument first others first_steady others_steady =>
    rw [word, List.mem_append, List.mem_cons, not_or, not_or] at unnamed
    exact List.forall_mem_cons.2 ⟨first_steady unnamed.1, others_steady unnamed.2.2⟩

end Derivation

private theorem withoutBlanks_dropWhile (chars : List Char) :
    withoutBlanks (chars.dropWhile isBlank) = withoutBlanks chars := by
  induction chars with
  | nil => rfl
  | cons c rest ih =>
    by_cases blank : isBlank c
    · simpa [withoutBlanks, blank] using ih
    · rw [List.dropWhile_cons_of_neg blank]

private theorem withoutBlanks_reverse (chars : List Char) :
    withoutBlanks chars.reverse = (withoutBlanks chars).reverse := List.filter_reverse

private theorem withoutBlanks_trimBlanks (chars : List Char) :
    withoutBlanks (trimBlanks chars) = withoutBlanks chars := by
  rw [trimBlanks, withoutBlanks_reverse, withoutBlanks_dropWhile, withoutBlanks_reverse,
    List.reverse_reverse, withoutBlanks_dropWhile]

namespace Formula

variable {names : List String} {source : String} {formula : Formula}

/-- The word for random functions stands in the text of every formula that calls one. -/
theorem steady_of_noWord (parsed : parse names source = .ok formula)
    (noWord : ¬ NamedFunction.random.letters <:+: withoutBlanks source.toList) :
    formula.tree.Steady := by
  obtain ⟨tokens, scanned, d, same, tree_eq, -⟩ := parse_sound parsed
  obtain ⟨-, whole⟩ := scanFrom_valid scanned
  -- the texts of the tokens make up the text, so a token with the name would put it there
  have unnamed : ∀ t ∈ tokens, t.lexeme ≠ Lexeme.random := by
    intro t member named
    have found : Lexeme.random ∈ lexemes tokens := named ▸ List.mem_map_of_mem member
    refine noWord ?_
    rw [← whole]
    exact List.infix_of_mem_flatten (List.mem_map_of_mem found)
  -- no pass over the tokens writes the name of the random function
  have other {f : NamedFunction} (differs : f ≠ .random) :
      Lexeme.name f.letters ≠ Lexeme.random :=
    fun same => differs (NamedFunction.letters_injective (Lexeme.name.inj same))
  have unnamed' : ∀ t ∈ spelledOut tokens, t.lexeme ≠ Lexeme.random := by
    apply @spelledOut_forall tokens (· ≠ Lexeme.random)
    · exact fun hyperbolic ratio => other (by simp)
    · decide
    · exact other (by decide)
    · exact unnamed
  rw [← tree_eq]
  refine d.steady_tree ?_
  rw [same, List.mem_map]
  rintro ⟨t, member, named⟩
  exact unnamed' t member named

/-- Blanks at the ends of a text do not matter. -/
theorem parse_trimBlanks (names : List String) (source : String) :
    parse names (String.ofList (trimBlanks source.toList)) = parse names source := by
  unfold parse
  rw [String.toList_ofList, withoutBlanks_trimBlanks]

end Formula

/-- Whether a text calls no random function, in whichever variable it is read. -/
def SteadyText (source : String) : Prop :=
  ∀ name formula, Formula.parse [name] source = .ok formula → formula.tree.Steady

section SteadyText

variable {source : String}

theorem steadyText_of_notMem (missing : 'r' ∉ source.toList) : SteadyText source := by
  refine fun name formula parsed => Formula.steady_of_noWord parsed fun word => missing ?_
  have inside : 'r' ∈ withoutBlanks source.toList := word.subset (by decide)
  exact (List.mem_filter.1 inside).1

/-- A single character is no word of three letters. -/
theorem steadyText_singleton (c : Char) : SteadyText (String.singleton c) := by
  refine fun name formula parsed => Formula.steady_of_noWord parsed fun word => ?_
  have short : (withoutBlanks (String.singleton c).toList).length ≤ 1 := by
    rw [String.toList_singleton]
    exact List.length_filter_le _ [c]
  have long : 3 ≤ (withoutBlanks (String.singleton c).toList).length := word.length_le
  omega

theorem steadyText_trimBlanks (steady : SteadyText source) :
    SteadyText (String.ofList (trimBlanks source.toList)) := by
  intro name formula parsed
  rw [Formula.parse_trimBlanks] at parsed
  exact steady name formula parsed

private theorem isDigit_of_mem_leadingForm {d : Decimal} {c : Char}
    (member : c ∈ d.leadingForm.1) :
    c.isDigit = true := by
  unfold Decimal.leadingForm at member
  split at member
  · rw [List.mem_singleton.1 member]
    decide
  · simp only [dropTrailingZeros, List.mem_reverse] at member
    have inside := (List.dropWhile_sublist _).subset member
    exact Nat.isDigit_of_mem_toDigits (by decide) (by decide) (List.mem_reverse.1 inside)

private theorem mem_positionalText {digits : List Char} {leading : Int} {c : Char}
    (member : c ∈ positionalText false digits leading) :
    c = '0' ∨ c = '.' ∨ c ∈ digits := by
  unfold positionalText at member
  -- below one, whole, or with digits on both sides of the point
  split at member
  · simp only [List.cons_append, List.nil_append, List.mem_cons, List.mem_append,
      List.mem_replicate] at member
    tauto
  · dsimp only at member
    split at member
    · simp only [Bool.false_eq_true, if_false, List.append_nil, List.mem_append,
        List.mem_replicate] at member
      rcases member with inside | ⟨-, zero⟩
      · exact .inr (.inr (List.mem_of_mem_take inside))
      · exact .inl zero
    · simp only [List.mem_append, List.mem_cons, List.mem_replicate] at member
      rcases member with (inside | ⟨-, zero⟩) | point | inside
      · exact .inr (.inr (List.mem_of_mem_take inside))
      · exact .inl zero
      · exact .inr (.inl point)
      · exact .inr (.inr (List.mem_of_mem_drop inside))

/-- A number that is written as a formula is no random one. -/
theorem steadyText_expandedText (x : Float) : SteadyText (expandedText x) := by
  -- digits, a point and a sign, or the name of a number that is not finite: no letter of the name
  refine steadyText_of_notMem ?_
  unfold expandedText signedText
  split
  next b _ =>
    rw [String.toList_ofList]
    intro member
    have inside :
        'r' ∈ positionalText false b.shortestDecimal.leadingForm.1
        b.shortestDecimal.leadingForm.2 := by
      split at member
      · simpa using member
      · exact member
    rcases mem_positionalText inside with zero | point | digit
    · exact absurd zero (by decide)
    · exact absurd point (by decide)
    · exact absurd (isDigit_of_mem_leadingForm digit) (by decide)
  · split
    · decide
    · split <;> decide

end SteadyText

end CurveBoard
