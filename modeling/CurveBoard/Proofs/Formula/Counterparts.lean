import CurveBoard.Formula.Symbolic
import CurveBoard.Proofs.Except
import CurveBoard.Proofs.Formula.Steadiness

/-!
# Formulas that computer algebra can be given

Whatever the system of computer algebra, a formula has a counterpart in it unless it rounds down,
draws random numbers or takes a factorial with a step that the system does not know to be one. What
is refused is refused for a reason in the formula, or since the system has been asked about a pole.
-/
namespace CurveBoard

variable {E : Type} {a : ComputerAlgebra E}

/-- A system that nothing is a pole for. -/
structure ComputerAlgebra.Poleless (a : ComputerAlgebra E) : Prop where
  negate (e : E) : (a.negate e).isSome = true
  combine (operation : Operation) (e e' : E) : (a.combine operation e e').isSome = true
  call (f : NamedFunction) (parts : List E) : (a.call f parts).isSome = true

private theorem orPole_eq_error {result : Option E} {fault : SymbolicFault} :
    orPole result = .error fault ↔ result = none ∧ fault = .gammaPole := by
  cases result <;> simp [orPole, eq_comm]

namespace Tree

/-- Whether computer algebra can do what a node of a formula asks for, its parts apart. -/
def HasCounterpart (a : ComputerAlgebra E) (node : Tree) : Prop :=
  (∀ arguments, node ≠ call .chop arguments ∧ node ≠ call .random arguments) ∧
    ∀ x step, node = call .factorial [x, step] →
      ∃ one, step.counterpart a = .ok one ∧ a.isOne one = true

/-- What there is in a formula, or in the system, that a fault is about. -/
def Explains (a : ComputerAlgebra E) (t : Tree) : SymbolicFault → Prop
  | .multifactorial => ∃ x step one, call .factorial [x, step] ∈ t.nodes ∧
      step.counterpart a = .ok one ∧ a.isOne one = false
  | .noCounterpart f => (f = .chop ∨ f = .random) ∧ ∃ arguments, call f arguments ∈ t.nodes
  | .gammaPole => ¬ a.Poleless

private theorem Explains.of_part {t part : Tree} {fault : SymbolicFault}
    (explains : part.Explains a fault) (inside : part.nodes ⊆ t.nodes) : t.Explains a fault := by
  cases fault with
  | multifactorial =>
    obtain ⟨x, step, one, found, value, other⟩ := explains
    exact ⟨x, step, one, inside found, value, other⟩
  | noCounterpart f =>
    obtain ⟨kind, arguments, found⟩ := explains
    exact ⟨kind, arguments, inside found⟩
  | gammaPole => exact explains

private theorem hasCounterpart_of_no_call {node : Tree}
    (other : ∀ f arguments, node ≠ call f arguments) :
    node.HasCounterpart a :=
  ⟨fun _ => ⟨other _ _, other _ _⟩, fun _ _ same => absurd same (other _ _)⟩

/-! ### One call -/

section Call

variable {f : NamedFunction} {arguments : List Tree}

private theorem counterpart_call (noChop : f ≠ .chop) (noRandom : f ≠ .random)
    (other : ∀ x step, f = .factorial → arguments ≠ [x, step]) :
    (call f arguments).counterpart a =
      (counterparts a arguments).bind fun parts => orPole (a.call f parts) := by
  rw [counterpart]
  · exact other
  · exact noChop
  · exact noRandom

private theorem exists_counterpart_error {fault : SymbolicFault}
    (refused : counterparts a arguments = .error fault) :
    ∃ t ∈ arguments, t.counterpart a = .error fault := by
  induction arguments with
  | nil =>
    rw [counterparts] at refused
    cases refused
  | cons t rest ih =>
    rw [counterparts] at refused
    rcases bind_eq_error.1 refused with first | ⟨e, -, later⟩
    · exact ⟨t, List.mem_cons_self, first⟩
    · obtain ⟨t', member, refused'⟩ := ih (map_eq_error.1 later)
      exact ⟨t', List.mem_cons_of_mem t member, refused'⟩

/-- A call with a counterpart is one that computer algebra can do, of arguments with
counterparts. -/
theorem counterparts_of_call {e : E} (made : (call f arguments).counterpart a = .ok e) :
    (∃ parts, counterparts a arguments = .ok parts) ∧ (call f arguments).HasCounterpart a := by
  by_cases chop : f = .chop
  · subst chop
    rw [counterpart] at made
    cases made
  by_cases random : f = .random
  · subst random
    rw [counterpart] at made
    cases made
  have noOther : ∀ arguments', call f arguments ≠ call .chop arguments' ∧
      call f arguments ≠ call .random arguments' := fun arguments' =>
    ⟨fun same => chop (Tree.call.inj same).1, fun same => random (Tree.call.inj same).1⟩
  by_cases stepped : ∃ x step, f = .factorial ∧ arguments = [x, step]
  · obtain ⟨x, step, rfl, rfl⟩ := stepped
    rw [counterpart] at made
    obtain ⟨one, step_made, made⟩ := bind_eq_ok.1 made
    split at made
    next same =>
      obtain ⟨e', x_made, -⟩ := bind_eq_ok.1 made
      refine ⟨⟨[e', one], ?_⟩, noOther, ?_⟩
      · rw [counterparts, counterparts, counterparts, x_made, step_made]
        rfl
      · rintro x' step' ⟨⟩
        exact ⟨one, step_made, same⟩
    next => cases made
  · rw [counterpart_call chop random fun x step same same' =>
      stepped ⟨x, step, same, same'⟩] at made
    obtain ⟨parts, arguments_made, -⟩ := bind_eq_ok.1 made
    refine ⟨⟨parts, arguments_made⟩, noOther, ?_⟩
    rintro x step ⟨⟩
    exact absurd ⟨x, step, rfl, rfl⟩ stepped

/-- A call without a counterpart is refused for itself, or for one of its arguments. -/
theorem explains_of_call {fault : SymbolicFault}
    (refused : (call f arguments).counterpart a = .error fault) :
    (call f arguments).Explains a fault ∨ ∃ t ∈ arguments,
      t.counterpart a = .error fault := by
  have self : call f arguments ∈ (call f arguments).nodes := by
    rw [nodes]
    exact List.mem_cons_self
  have pole {g : NamedFunction} {parts : List E}
      (refused : orPole (a.call g parts) = .error fault) : (call f arguments).Explains a fault := by
    obtain ⟨none, rfl⟩ := orPole_eq_error.1 refused
    intro poleless
    have answered := poleless.call g parts
    rw [none] at answered
    cases answered
  -- two functions are refused before their arguments, and a step before what it steps through
  by_cases chop : f = .chop
  · subst chop
    rw [counterpart] at refused
    cases refused
    exact .inl ⟨.inl rfl, arguments, self⟩
  by_cases random : f = .random
  · subst random
    rw [counterpart] at refused
    cases refused
    exact .inl ⟨.inr rfl, arguments, self⟩
  by_cases stepped : ∃ x step, f = .factorial ∧ arguments = [x, step]
  · obtain ⟨x, step, rfl, rfl⟩ := stepped
    rw [counterpart] at refused
    rcases bind_eq_error.1 refused with step_refused | ⟨one, step_made, refused'⟩
    · exact .inr ⟨step, by simp, step_refused⟩
    · split at refused'
      next =>
        rcases bind_eq_error.1 refused' with x_refused | ⟨e, -, at_pole⟩
        · exact .inr ⟨x, by simp, x_refused⟩
        · exact .inl (pole at_pole)
      next other =>
        cases refused'
        exact .inl ⟨x, step, one, self, step_made, Bool.eq_false_iff.2 other⟩
  · rw [counterpart_call chop random fun x step same same' =>
      stepped ⟨x, step, same, same'⟩] at refused
    rcases bind_eq_error.1 refused with arguments_refused | ⟨parts, -, at_pole⟩
    · exact .inr (exists_counterpart_error arguments_refused)
    · exact .inl (pole at_pole)

end Call

/-! ### Whole formulas -/

mutual

/-- What has a counterpart asks for nothing that computer algebra cannot do. -/
theorem hasCounterpart_of_ok {e : E} :
    (t : Tree) → t.counterpart a = .ok e → ∀ node ∈ t.nodes, node.HasCounterpart a
  | number value, _ => by
    rw [nodes, List.forall_mem_singleton]
    exact hasCounterpart_of_no_call nofun
  | constant c, _ => by
    rw [nodes, List.forall_mem_singleton]
    exact hasCounterpart_of_no_call nofun
  | free name, _ => by
    rw [nodes, List.forall_mem_singleton]
    exact hasCounterpart_of_no_call nofun
  | signed negative operand, made => by
    rw [counterpart] at made
    obtain ⟨part, operand_made, -⟩ := bind_eq_ok.1 made
    rw [nodes, List.forall_mem_cons]
    exact ⟨hasCounterpart_of_no_call nofun, hasCounterpart_of_ok operand operand_made⟩
  | binary operation left right, made => by
    rw [counterpart] at made
    obtain ⟨first, left_made, made⟩ := bind_eq_ok.1 made
    obtain ⟨second, right_made, -⟩ := bind_eq_ok.1 made
    rw [nodes, List.forall_mem_cons, List.forall_mem_append]
    exact ⟨hasCounterpart_of_no_call nofun, hasCounterpart_of_ok left left_made,
      hasCounterpart_of_ok right right_made⟩
  | call f arguments, made => by
    obtain ⟨⟨parts, arguments_made⟩, own⟩ := counterparts_of_call made
    rw [nodes, List.forall_mem_cons]
    exact ⟨own, hasCounterpart_of_all_ok arguments arguments_made⟩

theorem hasCounterpart_of_all_ok {parts : List E} : (arguments : List Tree) →
    counterparts a arguments = .ok parts → ∀ node ∈ nodesOfAll arguments,
      node.HasCounterpart a
  | [], _ => by
    rw [nodesOfAll]
    exact fun node found => absurd found List.not_mem_nil
  | t :: rest, made => by
    rw [counterparts] at made
    obtain ⟨e, first, made⟩ := bind_eq_ok.1 made
    obtain ⟨others, rest_made, -⟩ := map_eq_ok.1 made
    rw [nodesOfAll, List.forall_mem_append]
    exact ⟨hasCounterpart_of_ok t first, hasCounterpart_of_all_ok rest rest_made⟩

end

mutual

/-- A fault is about something in the formula, or about a pole. -/
theorem explains_of_error {fault : SymbolicFault} :
    (t : Tree) → t.counterpart a = .error fault → t.Explains a fault
  | number value, refused => by rw [counterpart] at refused; cases refused
  | constant c, refused => by rw [counterpart] at refused; cases refused
  | free name, refused => by rw [counterpart] at refused; cases refused
  | signed negative operand, refused => by
    rw [counterpart] at refused
    rcases bind_eq_error.1 refused with inner | ⟨e, -, at_pole⟩
    · exact (explains_of_error operand inner).of_part (by simp [nodes])
    · split at at_pole
      next =>
        obtain ⟨none, rfl⟩ := orPole_eq_error.1 at_pole
        intro poleless
        have answered := poleless.negate e
        rw [none] at answered
        cases answered
      next => cases at_pole
  | binary operation left right, refused => by
    rw [counterpart] at refused
    rcases bind_eq_error.1 refused with first | ⟨e, -, refused'⟩
    · exact (explains_of_error left first).of_part (by simp [nodes])
    rcases bind_eq_error.1 refused' with second | ⟨e', -, at_pole⟩
    · exact (explains_of_error right second).of_part (by simp [nodes])
    · obtain ⟨none, rfl⟩ := orPole_eq_error.1 at_pole
      intro poleless
      have answered := poleless.combine operation e e'
      rw [none] at answered
      cases answered
  | call f arguments, refused => by
    rcases explains_of_call refused with own | ⟨t, member, inner⟩
    · exact own
    · refine (explains_of_any_error arguments t member inner).of_part fun node found => ?_
      rw [nodes, List.mem_cons, mem_nodesOfAll]
      exact .inr ⟨t, member, found⟩

theorem explains_of_any_error {fault : SymbolicFault} : (arguments : List Tree) →
    ∀ t ∈ arguments, t.counterpart a = .error fault → t.Explains a fault
  | [] => fun _ member => absurd member List.not_mem_nil
  | t :: rest => List.forall_mem_cons.2 ⟨explains_of_error t, explains_of_any_error rest⟩

end

/-- A formula has a counterpart, apart from poles, if and only if it neither rounds down nor draws
random numbers and each of its factorials has a step that computer algebra knows to be one. -/
theorem counterpart_ok_iff (poleless : a.Poleless) (t : Tree) :
    (∃ e, t.counterpart a = .ok e) ↔ ∀ node ∈ t.nodes, node.HasCounterpart a := by
  constructor
  · rintro ⟨e, made⟩
    exact hasCounterpart_of_ok t made
  · intro all
    cases made : t.counterpart a with
    | ok e => exact ⟨e, rfl⟩
    | error fault =>
      have explains := explains_of_error t made
      cases fault with
      | multifactorial =>
        obtain ⟨x, step, one, found, step_made, other⟩ := explains
        obtain ⟨one', step_made', same⟩ := (all _ found).2 x step rfl
        cases step_made.symm.trans step_made'
        rw [other] at same
        cases same
      | noCounterpart f =>
        obtain ⟨rfl | rfl, arguments, found⟩ := explains
        · exact absurd rfl ((all _ found).1 arguments).1
        · exact absurd rfl ((all _ found).1 arguments).2
      | gammaPole => exact absurd poleless explains

end Tree

end CurveBoard
