import CurveBoard.Proofs.Formula.Ending
import CurveBoard.Proofs.Formula.FullSpelling

/-!
# Formulas on arrays

A formula works value by value: it has on an array what it has on each of the numbers in it, and
nothing if it has nothing on one of them. Its parts with the variable are arrays in the shape of the
argument, the others single values, and one is repeated to go with the other. So the induction says
of every part that it never has a value, or is made from the argument value by value, or is one
value whatever the argument. Exponents and counts of decimal places have to be of the last kind,
since the power of a number depends on whether the exponent is repeated along a row.
-/
namespace CurveBoard

open Nested

private theorem powers_single (base : Nested Float) (exponent : Float) :
    powers base (single exponent) = base.map (fixedPower exponent) := by
  have repeated : repeatsExponent base.shape (single exponent).shape = true := by
    simp [repeatsExponent, shape]
  rw [powers, if_pos repeated, zip_single]

/-- Rounding down works value by value if the count of places is the same everywhere. -/
theorem isPointwise_chopped {F : Nested Float → Nested Float} (pointwise : IsPointwise F)
    (places : Float) : IsPointwise fun input => chopped (F input) (single places) := by
  have scale : IsPointwise fun _ : Nested Float => powers (single 10.0) (single places) :=
    .fixed (fixedPower places 10.0) fun _ => by rw [powers_single, Nested.map]
  exact ((pointwise.zip scale (· * ·)).map Float.floor).zip scale (· / ·)

namespace NamedFunction

variable {f : NamedFunction} {F G : Nested Float → Option (Nested Float)}

/-- No function but the random one takes more than two arguments, and none takes no argument. -/
theorem result?_of_miscounted {arguments : List (Nested Float)} (other : f ≠ random) (dice : Dice)
    (count : arguments.length = 0 ∨ 3 ≤ arguments.length) :
    f.result? dice arguments = some (single Scalar.undefined) := by
  match arguments with
  | [] => cases f <;> rfl
  | [x] => simp at count
  | [x, y] => simp at count
  | x :: y :: z :: rest =>
    cases f with
    | random => exact absurd rfl other
    | _ => rfl

private theorem answersPointwise_result?_one (dice : Dice) (answers : AnswersPointwise F) :
    AnswersPointwise fun input => (F input).bind fun x => f.result? dice [x] := by
  have undefined : AnswersPointwise fun input =>
      (F input).bind fun _ => some (single (Scalar.undefined : Float)) :=
    answers.bind_some fun _ _ => .fixed _ fun _ => rfl
  cases f with
  | power => exact undefined
  | binomial => exact undefined
  | random => exact undefined
  | factorial => exact answers.mapM _
  | chop => exact answers.bind_some fun _ pointwise => isPointwise_chopped pointwise 0.0
  | _ => exact answers.bind_some fun _ pointwise => pointwise.map _

/-- A function of two arguments, the second of which has to be fixed if it is an exponent or a count
of decimal places. -/
theorem answersPointwise_result?_two (dice : Dice) (other : f ≠ random)
    (left : AnswersPointwise F) (right : AnswersPointwise G)
    (uniform : f = power ∨ f = chop →
      (∀ input, G input = none) ∨ ∃ value, ∀ input, G input = some (single value)) :
    AnswersPointwise fun input =>
      (F input).bind fun x => (G input).bind fun y => f.result? dice [x, y] := by
  have never (all : ∀ input, G input = none) : AnswersPointwise fun input =>
      (F input).bind fun x => (G input).bind fun y => f.result? dice [x, y] := by
    refine .never fun input => ?_
    rw [all]
    cases F input <;> rfl
  cases f with
  | random => exact absurd rfl other
  | power =>
    rcases uniform (.inl rfl) with all | ⟨value, all⟩
    · exact never all
    · simp only [result?, all, powers_single, Option.bind_some]
      exact left.bind_some fun _ pointwise => pointwise.map _
  | chop =>
    rcases uniform (.inr rfl) with all | ⟨value, all⟩
    · exact never all
    · simp only [result?, all, Option.bind_some]
      exact left.bind_some fun _ pointwise => isPointwise_chopped pointwise value
  | factorial =>
    have pairs := left.bind_bind_some right fun _ _ pointwise pointwise' =>
      pointwise.zip pointwise' Prod.mk
    have products := pairs.mapM fun pair => multifactorial? pair.1 pair.2
    simp only [Option.bind_assoc, Option.bind_some] at products
    exact products
  | binomial =>
    exact left.bind_bind_some right fun _ _ pointwise pointwise' =>
      pointwise.zip pointwise' CurveBoard.binomial
  | _ => exact left.bind_bind_some right fun _ _ _ _ => .fixed _ fun _ => rfl

end NamedFunction

namespace Tree

/-- Whether the exponents and the counts of decimal places in a tree name no variable. -/
def Uniform (t : Tree) : Prop :=
  ∀ node ∈ t.nodes, ∀ x fixed, node = .binary .raise x fixed ∨
    node = .call .power [x, fixed] ∨
    node = .call .chop [x, fixed] → fixed.isConstant = true

private theorem self_mem_nodes (t : Tree) : t ∈ t.nodes := by
  cases t <;> simp [nodes]

theorem Uniform.part {t part : Tree} (uniform : t.Uniform) (inside : part.nodes ⊆ t.nodes) :
    part.Uniform :=
  fun node found => uniform node (inside found)

mutual

/-- Without variables the argument does not matter. -/
theorem evaluate?_of_isConstant (input input' : Nested Float) :
    (t : Tree) → t.names = [] → ∀ dice, t.evaluate? dice input = t.evaluate? dice input'
  | number value, _, _ => by rw [evaluate?, evaluate?]
  | constant c, _, _ => by rw [evaluate?, evaluate?]
  | free name, named, _ => by rw [names] at named; cases named
  | signed negative operand, unnamed, dice => by
    rw [names] at unnamed
    rw [evaluate?, evaluate?, evaluate?_of_isConstant input input' operand unnamed]
  | binary operation left right, unnamed, dice => by
    rw [names, List.append_eq_nil_iff] at unnamed
    rw [evaluate?, evaluate?, evaluate?_of_isConstant input input' left unnamed.1,
      evaluate?_of_isConstant input input' right unnamed.2]
  | call f arguments, unnamed, dice => by
    rw [names] at unnamed
    rw [evaluate?, evaluate?, evaluateAll?_of_isConstant input input' arguments unnamed]

theorem evaluateAll?_of_isConstant (input input' : Nested Float) :
    (arguments : List Tree) → namesOfAll arguments = [] →
      ∀ dice, evaluateAll? dice input arguments = evaluateAll? dice input' arguments
  | [], _, _ => by rw [evaluateAll?, evaluateAll?]
  | t :: rest, unnamed, dice => by
    rw [namesOfAll, List.append_eq_nil_iff] at unnamed
    rw [evaluateAll?, evaluateAll?, evaluate?_of_isConstant input input' t unnamed.1,
      evaluateAll?_of_isConstant input input' rest unnamed.2]

end

private theorem exists_single_of_isConstant {t : Tree} {dice : Dice}
    (answers : AnswersPointwise fun input => t.evaluate? dice input)
    (constant : t.isConstant = true) :
    (∀ input, t.evaluate? dice input = none) ∨
      ∃ value, ∀ input, t.evaluate? dice input = some (single value) := by
  have unnamed : t.names = [] := by simpa [isConstant] using constant
  exact answers.exists_single fun input input' =>
    evaluate?_of_isConstant input input' t unnamed dice

/-- Arguments that are not looked at decide only whether there is a value. -/
theorem answersPointwise_evaluateAll? {arguments : List Tree} (value : Float)
    (each : ∀ t ∈ arguments, ∀ dice, AnswersPointwise fun input => t.evaluate? dice input)
    (dice : Dice) : AnswersPointwise fun input =>
      (evaluateAll? dice input arguments).bind fun _ => some (single value) := by
  induction arguments generalizing dice with
  | nil =>
    simp only [evaluateAll?, Option.bind_some]
    exact .of_isPointwise (.fixed value fun _ => rfl)
  | cons t rest ih =>
    obtain ⟨first, others⟩ := List.forall_mem_cons.1 each
    have both := (first (dice.part 0)).bind_bind_some (ih others (dice.part 1))
      (f := fun _ last => last) fun _ _ _ pointwise => pointwise
    simp only [Option.bind_assoc, Option.bind_some] at both
    simp only [evaluateAll?, Option.map_eq_bind, Option.bind_assoc, Function.comp_apply,
      Option.bind_some]
    exact both

private theorem answersPointwise_of_miscounted {f : NamedFunction} {arguments : List Tree}
    (other : f ≠ .random)
    (each : ∀ t ∈ arguments, ∀ dice, AnswersPointwise fun input => t.evaluate? dice input)
    (dice dice' : Dice) (count : arguments.length = 0 ∨ 3 ≤ arguments.length) :
    AnswersPointwise fun input => (evaluateAll? dice input arguments).bind (f.result? dice') := by
  have ignored := answersPointwise_evaluateAll? Scalar.undefined each dice
  convert ignored using 2 with input
  cases found : evaluateAll? dice input arguments with
  | none => rfl
  | some values =>
    rw [← length_of_evaluateAll? found] at count
    rw [Option.bind_some, NamedFunction.result?_of_miscounted other dice' count, Option.bind_some]

/-- A tree without random functions works value by value if its exponents and counts of places are
fixed. -/
theorem answersPointwise_evaluate? : (t : Tree) → t.Steady → t.Uniform →
    ∀ dice, AnswersPointwise fun input => t.evaluate? dice input
  | number value, _, _, _ => by
    simp only [evaluate?]
    exact .of_isPointwise (.fixed value fun _ => rfl)
  | constant c, _, _, _ => by
    simp only [evaluate?]
    exact .of_isPointwise (.fixed c.value fun _ => rfl)
  | free name, _, _, _ => by
    simp only [evaluate?]
    exact .of_isPointwise (.each id fun input => by rw [map_id])
  | signed negative operand, steady, uniform, dice => by
    have inner := answersPointwise_evaluate? operand ((steady_signed _ _).1 steady)
      (uniform.part (by simp [nodes])) dice
    simp only [evaluate?, Option.map_eq_bind]
    refine inner.bind_some fun _ pointwise => ?_
    cases negative with
    | false => exact pointwise
    | true => exact pointwise.map _
  | binary operation left right, steady, uniform, dice => by
    obtain ⟨left_steady, right_steady⟩ := (steady_binary _ _ _).1 steady
    have first := answersPointwise_evaluate? left left_steady (uniform.part (by simp [nodes]))
      ((dice.part 1).part 0)
    have second := answersPointwise_evaluate? right right_steady (uniform.part (by simp [nodes]))
      (((dice.part 1).part 1).part 0)
    cases operation with
    | raise =>
      -- a power is what the call of the function is
      have fixed := exists_single_of_isConstant second
        (uniform _ (self_mem_nodes _) left right (.inl rfl))
      have power := NamedFunction.answersPointwise_result?_two dice (f := .power) (by decide) first
        second fun _ => fixed
      simp only [evaluate?, Option.map_eq_bind]
      exact power
    | _ =>
      simp only [evaluate?, Option.map_eq_bind]
      exact first.bind_bind_some second fun _ _ pointwise pointwise' => pointwise.zip pointwise' _
  | call f arguments, steady, uniform, dice => by
    obtain ⟨other, steady_all⟩ := (steady_call _ _).1 steady
    have each : ∀ t ∈ arguments, ∀ dice, AnswersPointwise fun input =>
      t.evaluate? dice input :=
      fun t member => answersPointwise_evaluate? t (steady_all t member)
        (uniform.part fun node inside => by
        rw [nodes, List.mem_cons, mem_nodesOfAll]
        exact .inr ⟨t, member, inside⟩)
    simp only [evaluate?]
    match arguments with
    | [x] =>
      simpa only [evaluateAll?, Option.map_some, Option.bind_assoc, Option.bind_some] using
        NamedFunction.answersPointwise_result?_one _ (each x (by simp) _)
    | [x, y] =>
      have second := each y (by simp) (((dice.part 1).part 1).part 0)
      have both := NamedFunction.answersPointwise_result?_two (dice.part 0) other
        (each x (by simp) ((dice.part 1).part 0)) second fun scales => by
          refine exists_single_of_isConstant second (uniform _ (self_mem_nodes _) x y ?_)
          rcases scales with rfl | rfl
          · exact .inr (.inl rfl)
          · exact .inr (.inr rfl)
      simpa only [evaluateAll?, Option.map_some, Option.map_eq_bind, Option.bind_assoc,
        Option.bind_some, Function.comp_apply] using both
    | [] => exact answersPointwise_of_miscounted other each _ _ (.inl rfl)
    | x :: y :: z :: rest => exact answersPointwise_of_miscounted other each _ _ (.inr (by simp))

end Tree

namespace CompiledFormula

variable {c : CompiledFormula}

/-- What a formula has on arrays is made from their values one by one, if it has anything. -/
theorem onArray?_of_answersPointwise {dice : Dice}
    (answers : AnswersPointwise fun input => c.tree.evaluate? dice input) :
    (∀ input, c.onArray? dice input = none) ∨ ∃ (ends : Float → Prop) (g : Float → Float),
      (∀ input, (∀ x ∈ input.entries, ends x) →
        c.onArray? dice input = some (input.map g)) ∧
          ∀ input, ∀ x ∈ input.entries, ¬ ends x → c.onArray? dice input = none := by
  cases answers with
  | never all => exact .inl fun input => by rw [onArray?, all, Option.map_none]
  | wherever ends G pointwise value missing =>
    obtain ⟨g, filled⟩ : ∃ g : Float → Float, ∀ input : Nested Float,
        input.filledLike (G input) = input.map g := by
      cases pointwise with
      | each g all =>
        refine ⟨g, fun input => ?_⟩
        rw [all]
        cases input <;> rw [Nested.map, filledLike]
        rw [Nested.map]
      | fixed constant all => exact ⟨fun _ => constant, fun input => by rw [all, filledLike]⟩
    refine .inr ⟨ends, g, fun input here => ?_, fun input x member unending => ?_⟩
    · rw [onArray?, value input here, Option.map_some, filled]
    · rw [onArray?, missing input x member unending, Option.map_none]

private theorem onNumber?_of_single {dice : Dice} {x value : Float}
    (answered : c.onArray? dice (single x) = some (single value)) :
    c.onNumber? dice x = some value := by
  rw [onNumber?, answered, Option.map_some, entries, List.headD_cons]

section Pointwise

variable (steady : c.tree.Steady) (uniform : c.tree.Uniform)

include steady

private theorem isSome_onArray?_iff (dice : Dice) {input : Nested Float} :
    (c.onArray? dice input).isSome = true ↔ c.tree.Ends input := by
  rw [onArray?, Option.isSome_map, Tree.isSome_evaluate?_iff c.tree steady]

include uniform

/-- Where the products end, an array is computed from the values at its numbers. -/
theorem exists_map_onNumber? (dice : Dice) {input : Nested Float} (ends : c.tree.Ends input) :
    ∃ g : Float → Float, (∀ x ∈ input.entries, c.onNumber? dice x = some (g x)) ∧
      c.onArray? dice input = some (input.map g) := by
  have answered := (isSome_onArray?_iff steady dice).2 ends
  have answers := c.tree.answersPointwise_evaluate? steady uniform dice
  rcases onArray?_of_answersPointwise answers with never | ⟨here, g, value, missing⟩
  · rw [never] at answered
    cases answered
  · have all : ∀ x ∈ input.entries, here x := by
      intro x member
      by_contra unending
      rw [missing input x member unending] at answered
      cases answered
    refine ⟨g, fun x member => onNumber?_of_single ?_, value input all⟩
    rw [value _ fun y same => mem_entries_single.1 same ▸ all x member, Nested.map]

/-- The products in a formula end on an array with numbers in it if they end on each of these. -/
theorem ends_iff_forall_single {input : Nested Float} (some : input.entries ≠ []) :
    c.tree.Ends input ↔ ∀ x ∈ input.entries, c.tree.Ends (single x) := by
  have answers := c.tree.answersPointwise_evaluate? steady uniform ⟨0⟩
  simp only [← isSome_onArray?_iff steady ⟨0⟩]
  -- either there is no answer to any input, or each number decides for itself
  rcases onArray?_of_answersPointwise answers with never | ⟨here, g, value, missing⟩
  · obtain ⟨x, member⟩ := List.exists_mem_of_ne_nil _ some
    simp only [never, Option.isSome_none, Bool.false_eq_true, false_iff, not_forall]
    exact ⟨x, member, not_false⟩
  · have single_iff (x : Float) : (c.onArray? ⟨0⟩ (single x)).isSome = true ↔ here x := by
      constructor
      · intro answered
        by_contra unending
        rw [missing _ x (mem_entries_single.2 rfl) unending] at answered
        cases answered
      · intro ends
        rw [value _ fun y same => mem_entries_single.1 same ▸ ends, Option.isSome_some]
    simp only [single_iff]
    constructor
    · intro answered x member
      by_contra unending
      rw [missing input x member unending] at answered
      cases answered
    · intro all
      rw [value input all, Option.isSome_some]

end Pointwise

/-- A formula without random functions whose exponents and counts of decimal places are fixed has a
value on an array, however deep, just if its products come to an end there, and so on an array with
numbers in it just if they do for each of these. The value is an array of the same shape with the
values that the formula has on the numbers, each in its place. A constant formula has one value
everywhere, if it has any. -/
theorem onArray?_pointwise (c : CompiledFormula) (steady : c.tree.Steady)
    (uniform : c.tree.Uniform) :
    (∀ dice input, (c.onArray? dice input).isSome = true ↔ c.tree.Ends input) ∧
    (∀ input, input.entries ≠ [] →
      (c.tree.Ends input ↔ ∀ x ∈ input.entries, c.tree.Ends (.single x))) ∧
    (∀ dice dice' input, c.tree.Ends input → ∃ values, c.onArray? dice input = some values ∧
      input.mapM (c.onNumber? dice') = some values ∧ values.shape = input.shape ∧
      values.entries.map some = input.entries.map (c.onNumber? dice')) ∧
    (c.isConstant = true → (∀ dice input, c.onArray? dice input = none) ∨
      ∃ value, ∀ dice input, c.onArray? dice input = some (input.map fun _ => value)) := by
  refine ⟨fun dice input => isSome_onArray?_iff steady dice,
    fun input some => ends_iff_forall_single steady uniform some, ?_, ?_⟩
  · intro dice dice' input ends
    obtain ⟨g, values, whole⟩ := exists_map_onNumber? steady uniform dice' ends
    refine ⟨input.map g, ?_, mapM_eq_some input values, shape_map g input, ?_⟩
    · rw [onArray?_dice steady dice dice', whole]
    · rw [entries_map, List.map_map]
      exact List.map_congr_left fun x member => (values x member).symm
  · intro constant
    have answers := c.tree.answersPointwise_evaluate? steady uniform ⟨0⟩
    rcases Tree.exists_single_of_isConstant answers constant with never | ⟨value, all⟩
    · refine .inl fun dice input => ?_
      rw [onArray?_dice steady dice ⟨0⟩, onArray?, never, Option.map_none]
    · refine .inr ⟨value, fun dice input => ?_⟩
      rw [onArray?_dice steady dice ⟨0⟩, onArray?, all, Option.map_some, filledLike]

end CompiledFormula

namespace Derivation

/-- Pi, rounded down to three places. -/
def roundedPi : Derivation (["x"].map String.toList) .signed :=
  .ofOperand (.call .chop (.argument (.ofSigned (.ofOperand (.constant .pi (unhidden_x .pi))))
    (.lastArgument (.ofSigned (.ofOperand (.number ['3']))))) rfl)

/-- A square less a number that is rounded down. -/
def squareLessRoundedPi : Derivation (["x"].map String.toList) .sum :=
  .sum (.product (.unsigned (.factorial (.raised (.variable ['x'] known_x noFunction_x)
    (.unsignedExponent (.bare (.number ['2'])))) 0)) .noFactor)
    (.term true (.product roundedPi .noFactor) .noTerm)

private theorem tree_roundedPi :
    roundedPi.tree = Tree.call .chop [.constant .pi, .number (numeralValue ['3'])] := by
  simp [roundedPi, ofOperand, ofSigned, tree]

private theorem tree_squareLessRoundedPi :
    squareLessRoundedPi.tree =
      Tree.binary .subtract (.binary .raise (.free ['x']) (.number (numeralValue ['2'])))
        (.call .chop [.constant .pi, .number (numeralValue ['3'])]) := by
  simp [squareLessRoundedPi, roundedPi, ofOperand, ofSigned, tree, Operation.ofSign]

/-- A multifactorial with a step of `1e-20`. -/
def finelySteppedFactorial : Derivation (["x"].map String.toList) .sum :=
  .ofSigned (.ofOperand (.call .factorial
    (.argument (.ofSigned (.ofOperand (.variable ['x'] known_x noFunction_x)))
      (.lastArgument (.ofSigned (.ofOperand (.number ".00000000000000000001".toList))))) rfl))

private theorem tree_finelySteppedFactorial :
    finelySteppedFactorial.tree =
      Tree.call .factorial [.free ['x'],
        .number (numeralValue ".00000000000000000001".toList)] := by
  simp [finelySteppedFactorial, ofOperand, ofSigned, tree]

end Derivation

namespace CompiledFormula

/-- The square on an array of three rows and on one that has no rows, of three each, and the rounded
number on a row. -/
theorem onArray?_pointwise_square :
    ∃ square rounded : CompiledFormula,
      square.source = "x^2-chop(pi,3)" ∧ rounded.source = "chop(pi,3)" ∧
      (∀ dice, ∃ values,
        square.onArray? dice
          (.row [2] [.ofList [1.0, 2.0], .ofList [3.0, 4.0], .ofList [5.0, 6.0]]) = some values ∧
        values.shape = [3, 2] ∧
        values.entries.map some =
          [1.0, 2.0, 3.0, 4.0, 5.0, 6.0].map (square.onNumber? dice)) ∧
      (∀ dice, square.onArray? dice (.row [3] []) = some (.row [3] [])) ∧
      ∃ value, ∀ dice,
        rounded.onArray? dice (.ofList [1.0, 2.0]) = some (.ofList [value, value]) := by
  have parsed : Formula.parse ["x"] "x^2-chop(pi,3)" = .ok _ :=
    Formula.parse_of_word Derivation.squareLessRoundedPi (by decide +kernel)
  have parsed' : Formula.parse ["x"] "chop(pi,3)" = .ok _ :=
    Formula.parse_of_word (.ofSigned Derivation.roundedPi) (by decide +kernel)
  refine ⟨⟨_, _, _, parsed⟩, ⟨_, _, _, parsed'⟩, rfl, rfl, ?_⟩
  -- neither formula has a multifactorial
  have steady : Derivation.squareLessRoundedPi.tree.Steady := by
    simp [Derivation.tree_squareLessRoundedPi]
  have uniform : Derivation.squareLessRoundedPi.tree.Uniform := by
    simp [Derivation.tree_squareLessRoundedPi, Tree.Uniform, Tree.nodes, Tree.nodesOfAll,
      Tree.isConstant, Tree.names]
  have ends (input : Nested Float) : Derivation.squareLessRoundedPi.tree.Ends input := by
    apply Tree.ends_of_none
    simp [Derivation.tree_squareLessRoundedPi, Tree.nodes, Tree.nodesOfAll]
  obtain ⟨-, -, values, -⟩ := onArray?_pointwise ⟨_, _, _, parsed⟩ steady uniform
  refine ⟨fun dice => ?_, fun dice => ?_, ?_⟩
  · obtain ⟨found, answered, -, shape_eq, entries_eq⟩ := values dice dice _ (ends _)
    exact ⟨found, answered, shape_eq, entries_eq⟩
  · obtain ⟨found, answered, empty, -⟩ := values dice dice (.row [3] []) (ends _)
    rw [answered, ← empty, Nested.mapM]
    rfl
  · have steady : Derivation.roundedPi.ofSigned.tree.Steady := by simp [Derivation.tree_roundedPi]
    have uniform : Derivation.roundedPi.ofSigned.tree.Uniform := by
      simp [Derivation.tree_roundedPi, Tree.Uniform, Tree.nodes, Tree.nodesOfAll, Tree.isConstant,
        Tree.names]
    have constant : Derivation.roundedPi.ofSigned.tree.isConstant = true := by
      simp [Derivation.tree_roundedPi, Tree.isConstant, Tree.names, Tree.namesOfAll]
    have ends : Derivation.roundedPi.ofSigned.tree.Ends (.single 0.0) := by
      apply Tree.ends_of_none
      simp [Derivation.tree_roundedPi, Tree.nodes, Tree.nodesOfAll]
    obtain ⟨answered, -, -, same⟩ := onArray?_pointwise ⟨_, _, _, parsed'⟩ steady uniform
    rcases same constant with never | ⟨value, all⟩
    · have found := (answered ⟨0⟩ (.single 0.0)).2 ends
      rw [never] at found
      cases found
    · refine ⟨value, fun dice => ?_⟩
      rw [all]
      simp [Nested.map, Nested.ofList]

/-- At 0.75 the product of a multifactorial with a small step has no end, so there is no array. -/
theorem not_onArray?_isSome :
    ¬ ∀ c : CompiledFormula, c.tree.Steady → c.tree.Uniform →
      ∀ dice input, (c.onArray? dice input).isSome = true := by
  intro answered
  have parsed : Formula.parse ["x"] "factorial(x,.00000000000000000001)" = .ok _ :=
    Formula.parse_of_word Derivation.finelySteppedFactorial (by decide +kernel)
  have steady : Derivation.finelySteppedFactorial.tree.Steady := by
    simp [Derivation.tree_finelySteppedFactorial]
  have uniform : Derivation.finelySteppedFactorial.tree.Uniform := by
    simp [Derivation.tree_finelySteppedFactorial, Tree.Uniform, Tree.nodes, Tree.nodesOfAll]
  have found := answered ⟨_, _, _, parsed⟩ steady uniform ⟨0⟩ (.ofList [0.75])
  have ends : Derivation.finelySteppedFactorial.tree.Ends (.ofList [0.75]) :=
    (isSome_onArray?_iff (c := ⟨_, _, _, parsed⟩) steady ⟨0⟩).1 found
  rw [Derivation.tree_finelySteppedFactorial, Tree.ends_call] at ends
  -- the step is lost in the factor 0.75, and the product stays at a denormal number
  have endless : Endless 0.75 (numeralValue ".00000000000000000001".toList) := by
    constructor
    · exact (float_lt_iff _ _).2 rfl
    · exact (float_le_iff _ _).2 rfl
    · exact (float_lt_iff _ _).2 (by decide +kernel)
    · exact (float_le_iff _ _).2 (by decide +kernel)
    · rintro ⟨same, -⟩
      cases same
  refine ends.2 rfl _ _ rfl ⟨0⟩ _ _ (by rw [Tree.evaluate?]) (by rw [Tree.evaluate?])
    (0.75, _) ?_ endless
  rw [zip_single, entries_map]
  exact List.mem_map_of_mem (List.mem_singleton_self _)

end CompiledFormula

end CurveBoard
