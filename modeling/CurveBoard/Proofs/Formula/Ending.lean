import CurveBoard.Proofs.Formula.EndlessProducts
import CurveBoard.Proofs.Formula.Steadiness
import CurveBoard.Proofs.Nested

/-!
# Formulas that have values

Only a multifactorial may fail to have a value, and which arguments it fails for is known. So a
formula without random functions has a value just if none of the multifactorials in it meets such
arguments, at whichever place of the arrays that it is taken of.
-/
namespace CurveBoard

open Nested

namespace NamedFunction

private theorem isSome_result?_factorial {dice : Dice} {xs steps : Nested Float} :
    (factorial.result? dice [xs, steps]).isSome = true ↔
      ∀ pair ∈ (zip Prod.mk xs steps).entries, ¬ Endless pair.1 pair.2 := by
  rw [result?, isSome_mapM_iff]
  constructor
  · intro values pair member endless
    exact not_isSome_of_endless endless (values pair member)
  · intro ending pair member
    exact isSome_of_not_endless (ending pair member)

private theorem isSome_result? {f : NamedFunction} {dice : Dice} {arguments : List (Nested Float)}
    (other : ¬ (f = factorial ∧ arguments.length = 2)) :
    (f.result? dice arguments).isSome = true := by
  cases f with
  | factorial =>
    match arguments with
    | [] => rfl
    | [x] =>
      rw [result?, isSome_mapM_iff]
      exact fun u _ => isSome_of_not_endless (not_endless_one u)
    | [x, step] => exact absurd ⟨rfl, rfl⟩ other
    | x :: step :: places :: rest => rfl
  | random => rcases arguments with _ | ⟨_, _ | ⟨_, _ | ⟨_, _ | _⟩⟩⟩ <;> rfl
  | _ => rcases arguments with _ | ⟨_, _ | ⟨_, _ | _⟩⟩ <;> rfl

end NamedFunction

namespace Tree

variable {input : Nested Float}

/-- Whether the products of the multifactorials in a tree come to an end, for all the numbers that
they are taken of where the variable has the given value. -/
def Ends (t : Tree) (input : Nested Float) : Prop :=
  ∀ x step, .call .factorial [x, step] ∈ t.nodes →
    ∀ dice xs steps, x.evaluate? dice input = some xs →
    step.evaluate? dice input = some steps →
      ∀ pair ∈ (zip Prod.mk xs steps).entries, ¬ Endless pair.1 pair.2

section Ends

attribute [local simp] nodes

private theorem ends_number (value : Float) : (number value).Ends input := by simp [Ends]

private theorem ends_constant (c : Constant) : (constant c).Ends input := by simp [Ends]

private theorem ends_free (name : List Char) : (free name).Ends input := by simp [Ends]

private theorem ends_signed {negative : Bool} {operand : Tree} :
    (signed negative operand).Ends input ↔ operand.Ends input := by
  simp [Ends]

private theorem ends_binary {operation : Operation} {left right : Tree} :
    (binary operation left right).Ends input ↔ left.Ends input ∧ right.Ends input := by
  simp only [Ends, nodes, List.mem_cons, List.mem_append, reduceCtorEq, false_or]
  constructor
  · intro ends
    exact ⟨fun x step inside => ends x step (.inl inside),
      fun x step inside => ends x step (.inr inside)⟩
  · rintro ⟨left_ends, right_ends⟩ x step (inside | inside)
    · exact left_ends x step inside
    · exact right_ends x step inside

theorem ends_call {f : NamedFunction} {arguments : List Tree} :
    (call f arguments).Ends input ↔ (∀ t ∈ arguments, t.Ends input) ∧
      (f = .factorial → ∀ x step, arguments = [x, step] →
        ∀ dice xs steps, x.evaluate? dice input = some xs →
          step.evaluate? dice input = some steps →
            ∀ pair ∈ (zip Prod.mk xs steps).entries, ¬ Endless pair.1 pair.2) := by
  simp only [Ends, nodes, List.mem_cons, mem_nodesOfAll]
  constructor
  · intro ends
    constructor
    · intro t member x step inside
      exact ends x step (.inr ⟨t, member, inside⟩)
    · rintro rfl x step rfl
      exact ends x step (.inl rfl)
  · rintro ⟨parts, own⟩ x step (same | ⟨t, member, inside⟩)
    · obtain ⟨rfl, rfl⟩ := Tree.call.inj same
      exact own rfl x step rfl
    · exact parts t member x step inside

end Ends

/-- Without multifactorials every product ends. -/
theorem ends_of_none {t : Tree} (none : ∀ x step, call .factorial [x, step] ∉ t.nodes) :
    t.Ends input :=
  fun x step inside => absurd inside (none x step)

section Arguments

variable {dice : Dice} {values : List (Nested Float)}

private theorem evaluateAll?_nil : evaluateAll? dice input [] = some values ↔ values = [] := by
  rw [evaluateAll?, Option.some_inj, eq_comm]

private theorem evaluateAll?_cons {t : Tree} {rest : List Tree} :
    evaluateAll? dice input (t :: rest) = some values ↔
      ∃ value others, t.evaluate? (dice.part 0) input = some value ∧
        evaluateAll? (dice.part 1) input rest = some others ∧ values = value :: others := by
  rw [evaluateAll?, Option.bind_eq_some_iff]
  simp only [Option.map_eq_some_iff, exists_and_left, @eq_comm _ values]

theorem length_of_evaluateAll? {arguments : List Tree}
    (found : evaluateAll? dice input arguments = some values) :
    values.length = arguments.length := by
  induction arguments generalizing dice values with
  | nil => rw [evaluateAll?_nil.1 found]; rfl
  | cons t rest ih =>
    obtain ⟨value, others, -, found', rfl⟩ := evaluateAll?_cons.1 found
    rw [List.length_cons, List.length_cons, ih found']

private theorem evaluateAll?_pair {x step : Tree}
    (found : evaluateAll? dice input [x, step] = some values) :
    ∃ xs steps, x.evaluate? (dice.part 0) input = some xs ∧
      step.evaluate? ((dice.part 1).part 0) input = some steps ∧ values = [xs, steps] := by
  obtain ⟨xs, others, value, found', rfl⟩ := evaluateAll?_cons.1 found
  obtain ⟨steps, none, value', last, rfl⟩ := evaluateAll?_cons.1 found'
  rw [evaluateAll?_nil.1 last]
  exact ⟨xs, steps, value, value', rfl⟩

end Arguments

mutual

/-- A tree without random functions has a value just if its products come to an end. -/
theorem isSome_evaluate?_iff : (t : Tree) → t.Steady → ∀ dice,
    (t.evaluate? dice input).isSome = true ↔ t.Ends input
  | number value, _, dice => by simp [evaluate?, ends_number]
  | constant c, _, dice => by simp [evaluate?, ends_constant]
  | free name, _, dice => by simp [evaluate?, ends_free]
  | signed negative operand, steady, dice => by
    rw [evaluate?, Option.isSome_map, ends_signed]
    exact isSome_evaluate?_iff operand ((steady_signed _ _).1 steady) dice
  | binary operation left right, steady, dice => by
    obtain ⟨left_steady, right_steady⟩ := (steady_binary _ _ _).1 steady
    rw [ends_binary, ← isSome_evaluate?_iff left left_steady ((dice.part 1).part 0),
      ← isSome_evaluate?_iff right right_steady (((dice.part 1).part 1).part 0), evaluate?]
    cases left.evaluate? ((dice.part 1).part 0) input <;> simp
  | call f arguments, steady, dice => by
    obtain ⟨-, all⟩ := (steady_call _ _).1 steady
    have parts := isSome_evaluateAll?_iff arguments all (dice.part 1)
    rw [evaluate?, ends_call, ← parts]
    cases values : evaluateAll? (dice.part 1) input arguments with
    | none => simp
    | some found =>
      simp only [Option.bind_some, Option.isSome_some, true_and]
      -- the call itself fails only if it is a multifactorial
      by_cases own : f = .factorial ∧ arguments.length = 2
      · obtain ⟨rfl, two⟩ := own
        obtain ⟨x, step, rfl⟩ := List.length_eq_two.1 two
        obtain ⟨xs, steps, value, value', rfl⟩ := evaluateAll?_pair values
        rw [NamedFunction.isSome_result?_factorial]
        constructor
        · rintro ending - x' step' same dice' xs' steps' found found'
          -- other dice give the same arguments
          cases same
          rw [Steady.evaluate?_dice input x (all x (by simp)) dice' _, value] at found
          rw [Steady.evaluate?_dice input step (all step (by simp)) dice' _, value'] at found'
          cases found
          cases found'
          exact ending
        · intro ends
          refine ends rfl x step rfl ((dice.part 1).part 0) xs steps value ?_
          rwa [Steady.evaluate?_dice input step (all step (by simp)) _
            (((dice.part 1).part 1).part 0)]
      · rw [NamedFunction.isSome_result? (by rwa [length_of_evaluateAll? values])]
        refine iff_of_true rfl ?_
        rintro rfl x step rfl
        exact absurd ⟨rfl, rfl⟩ own

theorem isSome_evaluateAll?_iff :
    (arguments : List Tree) → (∀ t ∈ arguments, t.Steady) → ∀ dice,
    (evaluateAll? dice input arguments).isSome = true ↔ ∀ t ∈ arguments, t.Ends input
  | [], _, dice => by simp [evaluateAll?]
  | t :: rest, steady, dice => by
    obtain ⟨first, others⟩ := List.forall_mem_cons.1 steady
    rw [List.forall_mem_cons, ← isSome_evaluate?_iff t first (dice.part 0),
      ← isSome_evaluateAll?_iff rest others (dice.part 1), evaluateAll?]
    cases t.evaluate? (dice.part 0) input <;> simp

end

end Tree

end CurveBoard
